import Dcpu16Asm.Operand.Parse

/-!
Reading an instruction from its fields. The checks run in order: two or three fields, a
known mnemonic, as many operands as the mnemonic takes, and for two operands a comma
closing the first. The comma is dropped from the first operand; the second is read as
it stands, so a comma after it makes it no operand.
-/

namespace Dcpu16Asm.Instruction

/-- Reads an instruction from its mnemonic and one or two operand fields. -/
def ofFields (name : String) (operands : List String) : Except AsmError Instruction :=
  match Mnemonic.ofName? name with
  | none => .error (.unknownMnemonic name)
  | some m =>
    match m, operands with
    | .jsr, [t] => .jsr <$> Operand.parse t
    | .basic op, [t, u] =>
      match t.toList.getLast? with
      | none => .error .emptyFirstOperand
      | some c =>
        if c = ',' then do
          let a ← Operand.parse (String.ofList t.toList.dropLast)
          let b ← Operand.parse u
          pure (.basic op a b)
        else .error (.missingComma t)
    | m, _ => .error (.operandCount m)

/-- Reads an instruction from its fields: the mnemonic, then the operands. -/
def parse (tokens : List String) : Except AsmError Instruction :=
  match tokens with
  | [name, t] => ofFields name [t]
  | [name, t, u] => ofFields name [t, u]
  | _ => .error (.partCount tokens)

end Dcpu16Asm.Instruction
