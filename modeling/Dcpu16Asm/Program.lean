import Dcpu16Asm.Item

/-!
Views of a program given as a list of items: how many words it occupies, the labels it
defines and refers to, where each label is defined, and the words it stands for once
every reference is replaced by its label's address. They say what assembly computes
without its two passes: the address of a label is the size of the items before its
first definition.
-/

namespace Dcpu16Asm

/-- The label an item defines, if it is a label definition. -/
def Item.defines : Item → Option String
  | .label l => some l
  | .instr _ => none

def Item.instruction? : Item → Option Instruction
  | .label _ => none
  | .instr i => some i

/-- The labels an item refers to, in order of position. -/
def Item.references (x : Item) : List String := x.cells.filterMap Cell.ref

namespace Program

/-- The number of words a program occupies. -/
def size : List Item → Nat
  | [] => 0
  | x :: p => x.size + size p

/-- The labels a program defines, in order of definition. -/
def labelDefs (p : List Item) : List String := p.filterMap Item.defines

/-- The labels a program refers to, in order of position. -/
def labelRefs (p : List Item) : List String := p.flatMap Item.references

def instructions (p : List Item) : List Instruction := p.filterMap Item.instruction?

def cells (p : List Item) : List Cell := p.flatMap Item.cells

/-- The address of the first definition of a label: the size of the items before it. -/
def address? (l : String) : List Item → Option Nat
  | [] => none
  | x :: rest => if x = .label l then some 0 else (address? l rest).map (x.size + ·)

/-- The words of a program with each reference replaced by its label's address, or `none`
if some label referred to is never defined. -/
def resolved? (p : List Item) : Option (List Nat) :=
  (cells p).mapM fun c => match c.ref with
    | none => some c.word
    | some l => address? l p

@[simp] theorem size_nil : size [] = 0 := rfl

@[simp] theorem size_cons (x : Item) (p : List Item) : size (x :: p) = x.size + size p := rfl

theorem size_append (p q : List Item) : size (p ++ q) = size p + size q := by
  induction p with
  | nil => simp
  | cons x p ih => simp [ih, Nat.add_assoc]

@[simp] theorem labelDefs_nil : labelDefs [] = [] := rfl

theorem labelDefs_append (p q : List Item) :
    labelDefs (p ++ q) = labelDefs p ++ labelDefs q := by
  simp [labelDefs]

@[simp] theorem labelRefs_nil : labelRefs [] = [] := rfl

theorem labelRefs_append (p q : List Item) :
    labelRefs (p ++ q) = labelRefs p ++ labelRefs q := by
  simp [labelRefs]

theorem cells_append (p q : List Item) : cells (p ++ q) = cells p ++ cells q := by
  simp [cells]

theorem length_cells (p : List Item) : (cells p).length = size p := by
  induction p with
  | nil => rfl
  | cons x p ih => simp [cells, Item.size] at ih ⊢; omega

end Program

end Dcpu16Asm
