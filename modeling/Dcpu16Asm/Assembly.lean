import Dcpu16Asm.Source

/-!
Assembly in two passes. The first pass walks the items in order and keeps a layout: the
words written so far, where a reference holds 0; the address of each label defined so
far, the number of words written before its definition; and the position of every word
that refers to a label. A label defined a second time stops the pass there. The second
pass goes through the references in order of position and writes each label's address
over its word; the first reference to a label that is never defined stops it.

Assembling program lines reads each line only when the first pass reaches it, so the
first pass takes the items of a line before a failure of reading on that line: a label
defined twice is reported before a failure later in the text, and a failure of reading
before a label defined twice later on.
-/

namespace Dcpu16Asm

/-- Addresses of labels, most recent definition first. -/
abbrev SymbolTable := List (String × Nat)

namespace Assembly

/-- The state of the first pass. -/
structure Layout where
  /-- The words written so far; a reference holds 0. -/
  words : Array Nat
  /-- The labels defined so far, with their addresses, most recent first. -/
  symbols : SymbolTable
  /-- The position and label of every reference, in order of position. -/
  fixups : Array (Nat × String)

namespace Layout

/-- Nothing written and nothing defined. -/
def empty : Layout := ⟨#[], [], #[]⟩

/-- Writes one cell at the end, noting its position if it is a reference. -/
def addCell (s : Layout) (c : Cell) : Layout :=
  { s with
    words := s.words.push c.word
    fixups := match c.ref with
      | some l => s.fixups.push (s.words.size, l)
      | none => s.fixups }

/-- One item of the first pass: an instruction writes its cells, a label takes the
number of words written so far as its address. -/
def step (s : Layout) : Item → Except AsmError Layout
  | .instr i => .ok (i.cells.foldl addCell s)
  | .label l =>
    if (s.symbols.lookup l).isSome then .error (.duplicateLabel l)
    else .ok { s with symbols := (l, s.words.size) :: s.symbols }

def run (s : Layout) : List Item → Except AsmError Layout
  | [] => .ok s
  | x :: xs => match s.step x with
    | .ok s' => s'.run xs
    | .error e => .error e

/-- The first pass over program lines, reading each line when the pass reaches it. -/
def runLines (s : Layout) : List String → Except AsmError Layout
  | [] => .ok s
  | line :: rest =>
    let p := parseLine line
    match s.run p.items with
    | .error e => .error e
    | .ok s' => match p.halt with
      | some e => .error e
      | none => s'.runLines rest

/-- Writes the address of a label over the word at a position. -/
def patchOne (symbols : SymbolTable) (words : Array Nat) (fixup : Nat × String) :
    Except AsmError (Array Nat) :=
  match symbols.lookup fixup.2 with
  | some a => .ok (words.set! fixup.1 a)
  | none => .error (.undefinedLabel fixup.2)

/-- The second pass: every reference, in order of position, receives its label's address. -/
def patch (s : Layout) : Except AsmError (List Nat) :=
  Array.toList <$> s.fixups.toList.foldlM (patchOne s.symbols) s.words

end Layout

def assemble (items : List Item) : Except AsmError (List Nat) :=
  match Layout.empty.run items with
  | .ok s => s.patch
  | .error e => .error e

/-- The words of a program's lines, read as the first pass reaches them. -/
def assembleLines (lines : List String) : Except AsmError (List Nat) :=
  match Layout.empty.runLines lines with
  | .ok s => s.patch
  | .error e => .error e

end Assembly

end Dcpu16Asm
