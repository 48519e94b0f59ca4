import Dcpu16Asm.Item
import Dcpu16Asm.Text.CharClasses

/-!
Reading program text. A comment runs from the first `;` of a line to its end. The rest of
the line is cut into fields at blanks; leading fields that begin with a colon define
labels, and the fields after them, if any, form one instruction.

Reading goes line by line and stops at the first failure: the items read up to it are
kept, with the failure that ended reading.
-/

namespace Dcpu16Asm.Text

/-- The fields of `cs`, where `cur` is the field being read, reversed. The fields are the
maximal runs of non-blank characters, in order: blanks at either end and runs of several
blanks separate nothing more than one blank does, so no field is empty. -/
def fieldRuns (cur : List Char) : List Char → List (List Char)
  | [] => if cur.isEmpty then [] else [cur.reverse]
  | c :: rest =>
    if isBlank c then
      if cur.isEmpty then fieldRuns [] rest else cur.reverse :: fieldRuns [] rest
    else fieldRuns (c :: cur) rest

/-- The fields of a text. -/
def fields (s : String) : List String := (fieldRuns [] s.toList).map String.ofList

example : fields "  SET A,\t0x30 \x0b" = ["SET", "A,", "0x30"] ∧ fields "" = [] := by decide

end Dcpu16Asm.Text

namespace Dcpu16Asm

/-- The text of a line before its first `;`. -/
def stripComment (line : String) : String :=
  String.ofList (line.toList.takeWhile (· ≠ ';'))

/-- What reading produced: the items in order, and the failure that stopped it, if any. -/
structure Parsed where
  items : List Item
  halt : Option AsmError
  deriving DecidableEq, Repr

namespace Parsed

def empty : Parsed := ⟨[], none⟩

/-- A failure before any item. -/
def failed (e : AsmError) : Parsed := ⟨[], some e⟩

def cons (x : Item) (p : Parsed) : Parsed := ⟨x :: p.items, p.halt⟩

/-- What `p` read, followed by what `q` read if `p` did not fail. -/
def andThen (p : Parsed) (q : Unit → Parsed) : Parsed :=
  match p.halt with
  | some _ => p
  | none => let r := q (); ⟨p.items ++ r.items, r.halt⟩

/-- The items, if reading did not fail. -/
def toExcept (p : Parsed) : Except AsmError (List Item) :=
  match p.halt with
  | some e => .error e
  | none => .ok p.items

end Parsed

/-- The items of a line's fields: labels while fields begin with a colon, then one
instruction of the remaining fields. -/
def parseFields : List String → Parsed
  | [] => .empty
  | t :: ts =>
    if t.toList.head? = some ':' then
      match Item.parseLabel t with
      | .ok l => (parseFields ts).cons (.label l)
      | .error e => .failed e
    else
      match Instruction.parse (t :: ts) with
      | .ok i => ⟨[.instr i], none⟩
      | .error e => .failed e

def parseLine (line : String) : Parsed := parseFields (Text.fields (stripComment line))

/-- The items of a program, line by line, up to the first failure. -/
def parseLines : List String → Parsed
  | [] => .empty
  | l :: ls => (parseLine l).andThen fun _ => parseLines ls

end Dcpu16Asm
