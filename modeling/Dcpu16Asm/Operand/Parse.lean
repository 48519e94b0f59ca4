import Dcpu16Asm.Error
import Dcpu16Asm.Literal

/-!
Reading an operand from its text. The steps run in a fixed order:

1. text in brackets `[t]` is read as `t`, addressed indirectly;
2. a special name (`POP` … `O`) is that operand, and keeps the brackets as an empty next word;
3. a one-letter register name is that register, or the word it points to;
4. in brackets, a `+` before the last character splits off a register offset, which must
   name a register;
5. a decimal or hexadecimal literal below 32 that is not in brackets is held in the code;
   any other literal takes a next word, added to the offset, pointed to, or plain;
6. a name refers to a label, pointed to or plain: an offset after a name is dropped;
7. anything else is no operand.
-/

namespace Dcpu16Asm.Operand

/-- Text in brackets is read as its inside, addressed indirectly. -/
def unbracket (cs : List Char) : Bool × List Char :=
  match cs with
  | '[' :: rest => if rest.getLast? = some ']' then (true, rest.dropLast) else (false, cs)
  | _ => (false, cs)

/-- Splits `t+c` into `t` and the offset character `c`. -/
def splitOffset (cs : List Char) : Option (List Char × Char) :=
  match cs.reverse with
  | c :: '+' :: rest => some (rest.reverse, c)
  | _ => none

/-- The operand of a number: held in the code if it is below 32 and not in brackets, else
in a next word added to the offset, pointed to, or plain. -/
def ofNumber (indirect : Bool) (offset : Option Register) (n : Nat) : Operand :=
  if h : indirect = false ∧ n < 32 then .inline ⟨n, h.2⟩
  else match offset with
    | some r => .derefOffset (.num n) r
    | none => if indirect then .derefNext (.num n) else .next (.num n)

/-- The operand of a literal, name or other text left after brackets and offset. -/
def ofBody (indirect : Bool) (offset : Option Register) (body : List Char) :
    Except AsmError Operand :=
  match Literal.decimalDigits? body with
  | some ds =>
    if AsmError.decimalDigitLimit < ds.length then .error (.literalTooLong ds.length)
    else .ok (ofNumber indirect offset (Literal.digitsValue 10 ds))
  | none =>
    match Literal.hex? body with
    | some n => .ok (ofNumber indirect offset n)
    | none =>
      if Literal.isName body then
        let p := Payload.ref (String.ofList body)
        .ok (if indirect then .derefNext p else .next p)
      else .error (.notAnOperand (String.ofList body))

/-- Reads an operand from its text. -/
def parse (token : String) : Except AsmError Operand :=
  if token.isEmpty then .error .emptyToken else
  let (indirect, inner) := unbracket token.toList
  match Special.ofName? inner with
  | some s => .ok (.special s indirect)
  | none =>
    match inner.map Register.ofChar? with
    | [some r] => .ok (if indirect then .deref r else .reg r)
    | _ =>
      match (if indirect then splitOffset inner else none) with
      | some (body, c) =>
        match Register.ofChar? c with
        | some r => ofBody indirect (some r) body
        | none => .error (.badOffset c)
      | none => ofBody indirect none inner

example : (parse "[0x10+I]").toOption = some (.derefOffset (.num 16) .i) ∧
    (parse "[POP]").toOption = some (.special .pop true) ∧
    (parse "31").toOption = some (.inline 31) ∧
    (parse "[1+Q]").toOption = none := by decide

end Dcpu16Asm.Operand
