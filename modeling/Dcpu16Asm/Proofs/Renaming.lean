import Dcpu16Asm.Proofs.Resolution

/-!
Renaming labels. Every label a program defines or refers to can be renamed by one map;
the words of each item stay as they are, and only the names its cells carry change. A
program renamed by an injective map assembles to the same words as before: assembly
reads a name only to tell it apart from the others (`assemble_map_rename`).
-/

namespace Dcpu16Asm

/-- A payload with its label renamed. -/
def Payload.rename (f : String → String) : Payload → Payload
  | .num n => .num n
  | .ref l => .ref (f l)

/-- An operand with the label of its next word renamed. -/
def Operand.rename (f : String → String) : Operand → Operand
  | .derefOffset p r => .derefOffset (p.rename f) r
  | .derefNext p => .derefNext (p.rename f)
  | .next p => .next (p.rename f)
  | o => o

def Instruction.rename (f : String → String) : Instruction → Instruction
  | .basic op a b => .basic op (a.rename f) (b.rename f)
  | .jsr a => .jsr (a.rename f)

/-- An item with the label it defines, or the labels it refers to, renamed. -/
def Item.rename (f : String → String) : Item → Item
  | .label l => .label (f l)
  | .instr i => .instr (i.rename f)

def Cell.rename (f : String → String) (c : Cell) : Cell := ⟨c.word, c.ref.map f⟩

section Rename

variable (f : String → String)

@[simp] theorem Cell.word_rename (c : Cell) : (c.rename f).word = c.word := rfl

@[simp] theorem Cell.ref_rename (c : Cell) : (c.rename f).ref = c.ref.map f := rfl

@[simp] theorem Operand.code_rename (o : Operand) : (o.rename f).code = o.code := by
  cases o <;> rfl

theorem Operand.cells_rename (o : Operand) : (o.rename f).cells = o.cells.map (Cell.rename f) := by
  cases o with
  | derefOffset p r => cases p <;> rfl
  | derefNext p => cases p <;> rfl
  | next p => cases p <;> rfl
  | special s padded => cases padded <;> rfl
  | reg r => rfl
  | deref r => rfl
  | inline n => rfl

@[simp] theorem Instruction.firstWord_rename (i : Instruction) :
    (i.rename f).firstWord = i.firstWord := by
  cases i <;> simp only [Instruction.rename, Instruction.firstWord, Operand.code_rename]

theorem Instruction.cells_rename (i : Instruction) :
    (i.rename f).cells = i.cells.map (Cell.rename f) := by
  cases i <;>
    simp [Instruction.cells, Instruction.rename, Instruction.operands, Instruction.firstWord,
      Operand.cells_rename, Cell.rename]

theorem Item.cells_rename (x : Item) : (x.rename f).cells = x.cells.map (Cell.rename f) := by
  cases x with
  | label l => rfl
  | instr i => exact Instruction.cells_rename f i

@[simp] theorem Item.size_rename (x : Item) : (x.rename f).size = x.size := by
  simp [Item.size, Item.cells_rename]

namespace Program

theorem cells_map_rename (p : List Item) :
    cells (p.map (Item.rename f)) = (cells p).map (Cell.rename f) := by
  simp [cells, List.map_flatMap, List.flatMap_map, Item.cells_rename]

theorem labelDefs_map_rename (p : List Item) :
    labelDefs (p.map (Item.rename f)) = (labelDefs p).map f := by
  have hdef : ∀ x : Item, (x.rename f).defines = x.defines.map f := by
    intro x
    cases x <;> rfl
  rw [labelDefs, labelDefs, List.filterMap_map, List.map_filterMap]
  exact congrArg (List.filterMap · p) (funext hdef)

theorem labelRefs_map_rename (p : List Item) :
    labelRefs (p.map (Item.rename f)) = (labelRefs p).map f := by
  rw [labelRefs_eq_filterMap_cells, labelRefs_eq_filterMap_cells, cells_map_rename,
    List.filterMap_map, List.map_filterMap]
  rfl

/-- Under an injective renaming a renamed label is found where the label was. -/
theorem address?_map_rename (hf : Function.Injective f) (l : String) (p : List Item) :
    address? (f l) (p.map (Item.rename f)) = address? l p := by
  induction p with
  | nil => rfl
  | cons x p ih =>
    have hx : (x.rename f = .label (f l)) ↔ x = .label l := by
      cases x with
      | label m => simp [Item.rename, hf.eq_iff]
      | instr i => simp [Item.rename]
    by_cases hl : x = .label l
    · simp [address?, hl, Item.rename]
    · simp only [List.map_cons, address?, if_neg (mt hx.mp hl), if_neg hl, ih, Item.size_rename]

end Program

theorem Cell.resolve_rename (hf : Function.Injective f) (p : List Item) (c : Cell) :
    (c.rename f).resolve (Program.address? · (p.map (Item.rename f))) =
      c.resolve (Program.address? · p) := by
  unfold Cell.resolve
  cases hc : c.ref with
  | none => simp [hc]
  | some l => simp [hc, Program.address?_map_rename f hf]

open Program in
/-- A program renamed by an injective map assembles to the words the program assembles to. -/
theorem Assembly.assemble_map_rename (hf : Function.Injective f) {p : List Item}
    {ws : List Nat} (h : Assembly.assemble p = .ok ws) :
    Assembly.assemble (p.map (Item.rename f)) = .ok ws := by
  obtain ⟨hnodup, hdef, hws⟩ := (Assembly.assemble_eq_ok_iff p ws).mp h
  apply (Assembly.assemble_eq_ok_iff _ ws).mpr
  refine ⟨?_, ?_, ?_⟩
  · rw [labelDefs_map_rename]
    exact List.Pairwise.map f (fun a b hab heq => hab (hf heq)) hnodup
  · intro l hl
    rw [labelRefs_map_rename, List.mem_map] at hl
    obtain ⟨m, hm, rfl⟩ := hl
    rw [labelDefs_map_rename]
    exact List.mem_map_of_mem (hdef m hm)
  · rw [hws, cells_map_rename, List.map_map]
    exact List.map_congr_left fun c _ => (Cell.resolve_rename f hf p c).symm

end Rename

end Dcpu16Asm
