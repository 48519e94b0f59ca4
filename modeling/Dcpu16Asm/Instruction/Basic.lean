import Dcpu16Asm.Operand.Basic

/-!
Instructions and their encoding. A basic instruction has an opcode from 1 to 15 and two
operands `a` and `b`; its first word holds `b` in bits 10–15, `a` in bits 4–9 and the
opcode in bits 0–3. The one non-basic instruction, JSR, has opcode 0 in bits 0–3, its
own code 1 in bits 4–9 and its operand in bits 10–15. After the first word come the next
words of the operands, `a`'s before `b`'s.

An instruction is written out as cells: a word, with the label whose address it must
receive if it is a reference.
-/

namespace Dcpu16Asm

/-- The fifteen basic operations, in the order of their opcodes. -/
inductive BasicOp where
  | set | add | sub | mul | div | mod | shl | shr | and | bor | xor | ife | ifn | ifg | ifb
  deriving DecidableEq, Repr

namespace BasicOp

/-- The opcode of a basic operation, from 1 to 15. -/
def code : BasicOp → Nat
  | .set => 0x1 | .add => 0x2 | .sub => 0x3 | .mul => 0x4 | .div => 0x5
  | .mod => 0x6 | .shl => 0x7 | .shr => 0x8 | .and => 0x9 | .bor => 0xa
  | .xor => 0xb | .ife => 0xc | .ifn => 0xd | .ifg => 0xe | .ifb => 0xf

def name : BasicOp → String
  | .set => "SET" | .add => "ADD" | .sub => "SUB" | .mul => "MUL" | .div => "DIV"
  | .mod => "MOD" | .shl => "SHL" | .shr => "SHR" | .and => "AND" | .bor => "BOR"
  | .xor => "XOR" | .ife => "IFE" | .ifn => "IFN" | .ifg => "IFG" | .ifb => "IFB"

/-- All basic operations, in the order of their opcodes. -/
def all : List BasicOp :=
  [.set, .add, .sub, .mul, .div, .mod, .shl, .shr, .and, .bor, .xor, .ife, .ifn, .ifg, .ifb]

theorem code_pos_lt (op : BasicOp) : 0 < op.code ∧ op.code < 16 := by
  cases op <;> decide

end BasicOp

/-- An instruction's mnemonic: a basic operation, or JSR. -/
inductive Mnemonic where
  | basic (op : BasicOp)
  | jsr
  deriving DecidableEq, Repr

namespace Mnemonic

def name : Mnemonic → String
  | .basic op => op.name
  | .jsr => "JSR"

/-- The opcode a mnemonic is known by: a basic opcode, or JSR's own code 1. -/
def opcode : Mnemonic → Nat
  | .basic op => op.code
  | .jsr => 0x1

/-- How many operands an instruction with this mnemonic takes. -/
def arity : Mnemonic → Nat
  | .basic _ => 2
  | .jsr => 1

/-- The mnemonic a text names; mnemonics are upper case. -/
def ofName? (s : String) : Option Mnemonic :=
  if s = "JSR" then some .jsr else (BasicOp.all.find? (·.name = s)).map .basic

end Mnemonic

/-- A word to be written, with the label whose address replaces it, if any. -/
structure Cell where
  word : Nat
  ref : Option String
  deriving DecidableEq, Repr

/-- The cell of an operand's next word, if it takes one. -/
def Operand.cells (o : Operand) : List Cell :=
  match o.payload? with
  | some p => [⟨p.word, p.label?⟩]
  | none => []

/-- An instruction: a basic operation with its operands `a` and `b`, or JSR with one. -/
inductive Instruction where
  | basic (op : BasicOp) (a b : Operand)
  | jsr (a : Operand)
  deriving DecidableEq, Repr

namespace Instruction

def mnemonic : Instruction → Mnemonic
  | .basic op _ _ => .basic op
  | .jsr _ => .jsr

/-- The operands of an instruction, in the order they are written. -/
def operands : Instruction → List Operand
  | .basic _ a b => [a, b]
  | .jsr a => [a]

/-- The first word: `b`, `a` and the opcode in bits 10–15, 4–9 and 0–3; for JSR the
operand in bits 10–15 and the code 1 in bits 4–9. -/
def firstWord : Instruction → Nat
  | .basic op a b => b.code * 0x400 + a.code * 0x10 + op.code
  | .jsr a => a.code * 0x400 + 0x1 * 0x10

/-- The cells of an instruction: the first word, then each operand's next word. -/
def cells (i : Instruction) : List Cell :=
  ⟨i.firstWord, none⟩ :: i.operands.flatMap Operand.cells

def size (i : Instruction) : Nat := i.cells.length

/-- The summary `Instruction(opcode, operand count)`. -/
def summary (i : Instruction) : String :=
  "Instruction(" ++ toString i.mnemonic.opcode ++ ", " ++ toString i.mnemonic.arity ++ ")"

theorem firstWord_lt (i : Instruction) : i.firstWord < 0x10000 := by
  cases i with
  | basic op a b =>
    have := a.code_lt; have := b.code_lt; have := op.code_pos_lt
    simp only [firstWord]; omega
  | jsr a => have := a.code_lt; simp only [firstWord]; omega

end Instruction

end Dcpu16Asm
