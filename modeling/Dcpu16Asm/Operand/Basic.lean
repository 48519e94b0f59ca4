/-!
Operands of DCPU-16 instructions. An operand is held in a six-bit field of the first word
of its instruction and may take one next word after it. The codes are the machine's:

* `0x00`–`0x07` a register, `0x08`–`0x0f` the word a register points to;
* `0x10`–`0x17` the word at a next word plus a register;
* `0x18`–`0x1d` POP, PEEK, PUSH, SP, PC, O;
* `0x1e` the word a next word points to, `0x1f` a next word itself;
* `0x20`–`0x3f` a literal from 0 to 31, held in the code.

A next word holds a number, or the address of a label that assembly fills in; until then
it holds 0. A special operand written in brackets, such as `[POP]`, keeps its code and
takes an empty next word.
-/

namespace Dcpu16Asm

/-- The eight general registers, in the order of their codes. -/
inductive Register where
  | a | b | c | x | y | z | i | j
  deriving DecidableEq, Repr

/-- The position of a register in the register file. -/
def Register.index : Register → Nat
  | .a => 0 | .b => 1 | .c => 2 | .x => 3 | .y => 4 | .z => 5 | .i => 6 | .j => 7

/-- The register a one-letter name denotes; names are upper case. -/
def Register.ofChar? : Char → Option Register
  | 'A' => some .a | 'B' => some .b | 'C' => some .c | 'X' => some .x
  | 'Y' => some .y | 'Z' => some .z | 'I' => some .i | 'J' => some .j
  | _ => none

theorem Register.index_lt (r : Register) : r.index < 8 := by
  cases r <;> decide

/-- The operands for the stack and the special registers, in the order of their codes. -/
inductive Special where
  | pop | peek | push | sp | pc | o
  deriving DecidableEq, Repr

/-- The position of a special operand after `0x18`. -/
def Special.index : Special → Nat
  | .pop => 0 | .peek => 1 | .push => 2 | .sp => 3 | .pc => 4 | .o => 5

theorem Special.index_lt (s : Special) : s.index < 6 := by
  cases s <;> decide

/-- The special operand a name denotes; names are upper case. -/
def Special.ofName? : List Char → Option Special
  | ['P', 'O', 'P'] => some .pop
  | ['P', 'E', 'E', 'K'] => some .peek
  | ['P', 'U', 'S', 'H'] => some .push
  | ['S', 'P'] => some .sp
  | ['P', 'C'] => some .pc
  | ['O'] => some .o
  | _ => none

/-- What a next word holds: a number, or a reference to a label. -/
inductive Payload where
  | num (n : Nat)
  | ref (label : String)
  deriving DecidableEq, Repr

/-- The word written before labels are resolved: the number, or 0 for a reference. -/
def Payload.word : Payload → Nat
  | .num n => n
  | .ref _ => 0

/-- The label a next word refers to, if any. -/
def Payload.label? : Payload → Option String
  | .num _ => none
  | .ref l => some l

/-- An instruction operand, one constructor per addressing form. -/
inductive Operand where
  | reg (r : Register)
  | deref (r : Register)
  | derefOffset (p : Payload) (r : Register)
  /-- A special operand; a bracketed one takes an empty next word. -/
  | special (s : Special) (padded : Bool)
  | derefNext (p : Payload)
  | next (p : Payload)
  | inline (n : Fin 32)
  deriving DecidableEq, Repr

namespace Operand

/-- The six-bit code of an operand. -/
def code : Operand → Nat
  | reg r => r.index
  | deref r => 0x08 + r.index
  | derefOffset _ r => 0x10 + r.index
  | special s _ => 0x18 + s.index
  | derefNext _ => 0x1e
  | next _ => 0x1f
  | inline n => 0x20 + n.val

/-- The next word an operand takes, if it takes one. -/
def payload? : Operand → Option Payload
  | derefOffset p _ => some p
  | special _ padded => if padded then some (.num 0) else none
  | derefNext p => some p
  | next p => some p
  | _ => none

def hasNextWord (o : Operand) : Bool := o.payload?.isSome

/-- The next word before labels are resolved; 0 for an operand without one. -/
def nextWord (o : Operand) : Nat := (o.payload?.map Payload.word).getD 0

/-- The label whose address the next word receives, if any. -/
def label? (o : Operand) : Option String := o.payload?.bind Payload.label?

/-- Whether assembly has to look up a label for this operand. -/
def requiresLookup (o : Operand) : Bool := o.hasNextWord && o.label?.isSome

/-- The summary `Value(code, next word)`. -/
def summary (o : Operand) : String :=
  "Value(" ++ toString o.code ++ ", " ++ toString o.nextWord ++ ")"

theorem code_lt (o : Operand) : o.code < 64 := by
  cases o with
  | reg r => have := r.index_lt; simp only [code]; omega
  | deref r => have := r.index_lt; simp only [code]; omega
  | derefOffset _ r => have := r.index_lt; simp only [code]; omega
  | special s _ => have := s.index_lt; simp only [code]; omega
  | derefNext _ => simp only [code]; omega
  | next _ => simp only [code]; omega
  | inline n => have := n.isLt; simp only [code]; omega

end Operand

end Dcpu16Asm
