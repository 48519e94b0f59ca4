import Dcpu16Asm.Instruction.Parse

/-!
Items of a program: label definitions and instructions, in the order they are written.
A label definition is a colon followed by the label's name; the name is not checked any
further, so a label whose name is no operand can be defined but not referred to.
-/

namespace Dcpu16Asm

/-- A label definition or an instruction. -/
inductive Item where
  | label (name : String)
  | instr (i : Instruction)
  deriving DecidableEq, Repr

namespace Item

/-- Reads a label definition `:name`, giving the name. -/
def parseLabel (token : String) : Except AsmError String :=
  match token.toList with
  | [] => .error .emptyToken
  | ':' :: c :: rest => .ok (String.ofList (c :: rest))
  | _ => .error (.labelSyntax token)

/-- The cells an item writes: none for a label. -/
def cells : Item → List Cell
  | label _ => []
  | instr i => i.cells

def size (x : Item) : Nat := x.cells.length

def isLabel : Item → Bool
  | label _ => true
  | instr _ => false

def isInstruction : Item → Bool
  | label _ => false
  | instr _ => true

/-- A label definition as written: `:name`. -/
def labelText (name : String) : String := ":" ++ name

/-- The summary of a label definition: `Label(` and the quoted name `)`. -/
def labelSummary (name : String) : String := "Label(" ++ Text.quote name ++ ")"

def summary : Item → String
  | label l => labelSummary l
  | instr i => i.summary

end Item

end Dcpu16Asm
