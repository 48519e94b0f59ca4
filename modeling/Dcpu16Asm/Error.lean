import Dcpu16Asm.Instruction.Basic
import Dcpu16Asm.Text.Quoted

/-!
Why reading or assembling a program fails. Most failures are the assembler's own
complaints, reported as a sentence between quote marks. A few are faults that the
assembler does not check for: an empty operand or label, an instruction with the wrong
number of operands (whose report cannot be written), a first operand with nothing in it,
and a decimal literal too long to convert.
-/

namespace Dcpu16Asm

/-- A failure of reading or assembling, by cause. -/
inductive AsmError where
  /-- A label definition that is not a colon followed by a name. -/
  | labelSyntax (token : String)
  /-- A register offset `+c` where `c` is not a register. -/
  | badOffset (c : Char)
  /-- Text that is no operand (brackets and offset removed). -/
  | notAnOperand (token : String)
  /-- An instruction of fewer than 2 or more than 3 fields. -/
  | partCount (tokens : List String)
  | unknownMnemonic (name : String)
  /-- A first of two operands without its comma. -/
  | missingComma (first : String)
  | duplicateLabel (name : String)
  | undefinedLabel (name : String)
  /-- An instruction with the wrong number of operands for its mnemonic. -/
  | operandCount (m : Mnemonic)
  /-- An empty operand or label text. -/
  | emptyToken
  /-- A first of two operands that is empty, so it has no last character. -/
  | emptyFirstOperand
  /-- A decimal literal of more digits than can be converted. -/
  | literalTooLong (digits : Nat)
  deriving DecidableEq, Repr

namespace AsmError

/-- Whether a failure is one of the assembler's own complaints. -/
def isComplaint : AsmError → Bool
  | labelSyntax _ | badOffset _ | notAnOperand _ | partCount _ | unknownMnemonic _
  | missingComma _ | duplicateLabel _ | undefinedLabel _ => true
  | _ => false

/-- The class of exception a failure is raised as: `ParseError` for a complaint, and for
each fault the class of the fault. -/
def className : AsmError → String
  | operandCount _ => "TypeError"
  | emptyToken => "AssertionError"
  | emptyFirstOperand => "IndexError"
  | literalTooLong _ => "ValueError"
  | _ => "ParseError"

theorem className_eq_parseError_iff (e : AsmError) :
    e.className = "ParseError" ↔ e.isComplaint = true := by
  cases e <;> simp [className, isComplaint]

/-- The most digits a decimal literal may have. -/
def decimalDigitLimit : Nat := 4300

/-- The sentence that describes a failure. -/
def text : AsmError → String
  | labelSyntax t => "Label must be of format :label, not " ++ t
  | badOffset c => "Bad register offset: " ++ c.toString
  | notAnOperand t => "Expected a value, found " ++ t
  | partCount ts => "Expected 2 or 3 part instruction: " ++ Text.quoteList ts
  | unknownMnemonic n => "Invalid opcode: " ++ n
  | missingComma v => "Expected a comma after first value " ++ v
  | duplicateLabel l => "duplicate label: " ++ l
  | undefinedLabel l => "could not find label: " ++ l
  | operandCount _ => "__str__ returned non-string (type int)"
  | emptyToken => ""
  | emptyFirstOperand => "string index out of range"
  | literalTooLong d =>
    "Exceeds the limit (" ++ toString decimalDigitLimit ++
      " digits) for integer string conversion: value has " ++ toString d ++
      " digits; use sys.set_int_max_str_digits() to increase the limit"

/-- The report of a failure: a complaint's sentence between quote marks, any other
failure's sentence as it is. -/
def message (e : AsmError) : String :=
  if e.isComplaint then Text.quote e.text else e.text

end AsmError

end Dcpu16Asm
