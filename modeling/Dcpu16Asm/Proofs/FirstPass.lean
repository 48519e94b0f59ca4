import Dcpu16Asm.Assembly
import Dcpu16Asm.Program

/-!
The first pass of assembly in closed form. Leaving aside its check for a label
defined twice, the pass only places items: an instruction appends its cells and a
label records the number of words written before it. The pass stops at the first
definition whose name is already known (`firstRepeat`), and otherwise ends in the
layout that placing every item in turn gives (`run_eq`). That layout holds the words
of the program's cells, the position of each reference, and for every label the
address of its definition (`extend_words`, `extend_fixups`, `lookup_extend`).
-/
namespace Dcpu16Asm

/-- The first name of `names` that is in `seen` or comes earlier in `names`. -/
def firstRepeat (seen : List String) : List String → Option String
  | [] => none
  | l :: ls => if l ∈ seen then some l else firstRepeat (l :: seen) ls

theorem firstRepeat_eq_none_iff (seen names : List String) :
    firstRepeat seen names = none ↔ names.Nodup ∧ ∀ l ∈ names, l ∉ seen := by
  induction names generalizing seen with
  | nil => simp [firstRepeat]
  | cons m names ih =>
    by_cases hm : m ∈ seen
    · simp [firstRepeat, hm]
    · rw [firstRepeat, if_neg hm, ih, List.nodup_cons, List.forall_mem_cons]
      constructor
      · rintro ⟨hnodup, hfresh⟩
        exact ⟨⟨fun hmem => hfresh m hmem List.mem_cons_self, hnodup⟩, hm,
          fun l hl hls => hfresh l hl (List.mem_cons_of_mem m hls)⟩
      · rintro ⟨⟨hnotin, hnodup⟩, -, hseen⟩
        refine ⟨hnodup, fun l hl hlms => ?_⟩
        rcases List.mem_cons.mp hlms with rfl | hls
        · exact hnotin hl
        · exact hseen l hl hls

/-- A repeat splits the names at the repeated one: nothing repeats before it, and it is
either seen or earlier in the names. -/
theorem firstRepeat_eq_some_iff (seen names : List String) (l : String) :
    firstRepeat seen names = some l ↔
      ∃ pre post, names = pre ++ l :: post ∧ firstRepeat seen pre = none ∧
        (l ∈ seen ∨ l ∈ pre) := by
  induction names generalizing seen with
  | nil => simp [firstRepeat]
  | cons m names ih =>
    constructor
    · intro h
      by_cases hm : m ∈ seen
      · simp only [firstRepeat, hm, if_true, Option.some.injEq] at h
        subst h
        exact ⟨[], names, rfl, rfl, Or.inl hm⟩
      · simp only [firstRepeat, hm, if_false] at h
        obtain ⟨pre, post, rfl, hpre, hl⟩ := (ih (m :: seen)).mp h
        refine ⟨m :: pre, post, rfl, ?_, ?_⟩
        · simpa [firstRepeat, hm] using hpre
        · rcases hl with hl | hl
          · rcases List.mem_cons.mp hl with rfl | hl
            · exact Or.inr (List.mem_cons_self)
            · exact Or.inl hl
          · exact Or.inr (List.mem_cons_of_mem m hl)
    · rintro ⟨pre, post, hnames, hpre, hl⟩
      cases pre with
      | nil =>
        simp only [List.nil_append, List.cons.injEq] at hnames
        obtain ⟨rfl, rfl⟩ := hnames
        have hseen : m ∈ seen := by simpa using hl
        simp [firstRepeat, hseen]
      | cons m' pre =>
        simp only [List.cons_append, List.cons.injEq] at hnames
        obtain ⟨rfl, rfl⟩ := hnames
        have hm : m ∉ seen := by
          intro hm
          simp [firstRepeat, hm] at hpre
        have hpre' : firstRepeat (m :: seen) pre = none := by
          simpa [firstRepeat, hm] using hpre
        have hl' : l ∈ m :: seen ∨ l ∈ pre := by
          rcases hl with hl | hl
          · exact Or.inl (List.mem_cons_of_mem m hl)
          · rcases List.mem_cons.mp hl with rfl | hl
            · exact Or.inl List.mem_cons_self
            · exact Or.inr hl
        simp only [firstRepeat, hm, if_false]
        exact (ih (m :: seen)).mpr ⟨pre, post, rfl, hpre', hl'⟩

theorem firstRepeat_nil_eq_none_iff (names : List String) :
    firstRepeat [] names = none ↔ names.Nodup := by
  simp [firstRepeat_eq_none_iff]

/-- With nothing seen before, the first repeat is the first name equal to an earlier
one. -/
theorem firstRepeat_nil_eq_some_iff (names : List String) (l : String) :
    firstRepeat [] names = some l ↔ ∃ pre post, names = pre ++ l :: post ∧ pre.Nodup ∧ l ∈ pre := by
  rw [firstRepeat_eq_some_iff]
  simp [firstRepeat_eq_none_iff]

/-- The position and label of every reference among cells written from position `k` on,
in order of position. -/
def Cell.fixupsFrom (k : Nat) : List Cell → List (Nat × String)
  | [] => []
  | c :: cs => match c.ref with
    | some l => (k, l) :: fixupsFrom (k + 1) cs
    | none => fixupsFrom (k + 1) cs

theorem Cell.fixupsFrom_append (k : Nat) (cs ds : List Cell) :
    fixupsFrom k (cs ++ ds) = fixupsFrom k cs ++ fixupsFrom (k + cs.length) ds := by
  induction cs generalizing k with
  | nil => rfl
  | cons c cs ih =>
    have hk : k + 1 + cs.length = k + (cs.length + 1) := by omega
    cases hc : c.ref <;> simp [fixupsFrom, hc, ih, hk]

namespace Program

@[simp] theorem labelDefs_instr_cons (i : Instruction) (p : List Item) :
    labelDefs (.instr i :: p) = labelDefs p := rfl

@[simp] theorem labelDefs_label_cons (l : String) (p : List Item) :
    labelDefs (.label l :: p) = l :: labelDefs p := rfl

@[simp] theorem cells_cons (x : Item) (p : List Item) : cells (x :: p) = x.cells ++ cells p := rfl

theorem mem_labelDefs_cons (l : String) (x : Item) (p : List Item) :
    l ∈ labelDefs (x :: p) ↔ x = .label l ∨ l ∈ labelDefs p := by
  cases x <;> simp [eq_comm]

/-- A label has an address exactly when the program defines it. -/
theorem address?_eq_none_iff (l : String) (p : List Item) :
    address? l p = none ↔ l ∉ labelDefs p := by
  induction p with
  | nil => simp [address?]
  | cons x p ih =>
    rw [address?, mem_labelDefs_cons]
    by_cases hx : x = .label l
    · simp [hx]
    · simp [hx, ih]

end Program

namespace Assembly.Layout

/-- The names of the labels defined so far. -/
def names (s : Layout) : List String := s.symbols.map Prod.fst

@[simp] theorem empty_names : empty.names = [] := rfl

/-- Places one item without looking at the labels already defined: an instruction
appends its cells, a label takes the number of words written so far as its address. -/
def place (s : Layout) : Item → Layout
  | .instr i => i.cells.foldl addCell s
  | .label l => { s with symbols := (l, s.words.size) :: s.symbols }

/-- Places every item of a program in turn. -/
def extend (s : Layout) (p : List Item) : Layout := p.foldl place s

theorem lookup_isSome_iff_mem_names (s : Layout) (l : String) :
    (s.symbols.lookup l).isSome ↔ l ∈ s.names := by
  simp only [names, List.lookup_isSome_iff, beq_iff_eq, List.mem_map]
  exact ⟨fun ⟨p, hp, h⟩ => ⟨p, hp, h.symm⟩, fun ⟨p, hp, h⟩ => ⟨p, hp, h.symm⟩⟩

theorem foldl_addCell_words (s : Layout) (cs : List Cell) :
    (cs.foldl addCell s).words.toList = s.words.toList ++ cs.map Cell.word := by
  induction cs generalizing s with
  | nil => simp
  | cons c cs ih => simp [ih, addCell]

theorem foldl_addCell_symbols (s : Layout) (cs : List Cell) :
    (cs.foldl addCell s).symbols = s.symbols := by
  induction cs generalizing s with
  | nil => rfl
  | cons c cs ih => simp [ih, addCell]

theorem foldl_addCell_fixups (s : Layout) (cs : List Cell) :
    (cs.foldl addCell s).fixups.toList = s.fixups.toList ++ Cell.fixupsFrom s.words.size cs := by
  induction cs generalizing s with
  | nil => simp [Cell.fixupsFrom]
  | cons c cs ih =>
    rw [List.foldl_cons, ih]
    cases hc : c.ref <;> simp [addCell, Cell.fixupsFrom, hc]

@[simp] theorem place_words (s : Layout) (x : Item) :
    (s.place x).words.toList = s.words.toList ++ x.cells.map Cell.word := by
  cases x with
  | instr i => exact foldl_addCell_words s i.cells
  | label l => simp [place, Item.cells]

@[simp] theorem place_words_size (s : Layout) (x : Item) :
    (s.place x).words.size = s.words.size + x.size := by
  have h := congrArg List.length (place_words s x)
  rw [Array.length_toList, List.length_append, Array.length_toList, List.length_map] at h
  exact h

theorem place_fixups (s : Layout) (x : Item) :
    (s.place x).fixups.toList = s.fixups.toList ++ Cell.fixupsFrom s.words.size x.cells := by
  cases x with
  | instr i => exact foldl_addCell_fixups s i.cells
  | label l => simp [place, Item.cells, Cell.fixupsFrom]

@[simp] theorem place_instr_names (s : Layout) (i : Instruction) :
    (s.place (.instr i)).names = s.names := by
  simp [place, names, foldl_addCell_symbols]

@[simp] theorem place_label_names (s : Layout) (l : String) :
    (s.place (.label l)).names = l :: s.names := rfl

/-- What one step of the first pass does: it refuses a label already defined, and
otherwise places the item. -/
theorem step_eq (s : Layout) (x : Item) :
    s.step x = match x.defines with
      | some l => if l ∈ s.names then .error (.duplicateLabel l) else .ok (s.place x)
      | none => .ok (s.place x) := by
  cases x with
  | instr i => rfl
  | label l =>
    simp only [step, Item.defines]
    by_cases hl : l ∈ s.names
    · rw [if_pos ((lookup_isSome_iff_mem_names s l).mpr hl), if_pos hl]
    · rw [if_neg (mt (lookup_isSome_iff_mem_names s l).mp hl), if_neg hl]
      rfl

@[simp] theorem extend_nil (s : Layout) : s.extend [] = s := rfl

@[simp] theorem extend_cons (s : Layout) (x : Item) (p : List Item) :
    s.extend (x :: p) = (s.place x).extend p := rfl

/-- A program read in two parts is the pass over the first part, then over the second. -/
theorem run_append (s : Layout) (p q : List Item) :
    s.run (p ++ q) = match s.run p with
      | .ok s' => s'.run q
      | .error e => .error e := by
  induction p generalizing s with
  | nil => rfl
  | cons x p ih =>
    simp only [List.cons_append, run]
    cases s.step x with
    | ok s' => exact ih s'
    | error e => rfl

/-- The first pass in closed form: it stops at the first label that repeats one
already defined, and otherwise places every item. -/
theorem run_eq (s : Layout) (p : List Item) :
    s.run p = match firstRepeat s.names (Program.labelDefs p) with
      | some l => .error (.duplicateLabel l)
      | none => .ok (s.extend p) := by
  induction p generalizing s with
  | nil => rfl
  | cons x p ih =>
    cases x with
    | instr i =>
      simp only [run, step_eq, Item.defines, Program.labelDefs_instr_cons]
      rw [ih, place_instr_names]
      rfl
    | label l =>
      simp only [run, step_eq, Item.defines, Program.labelDefs_label_cons]
      by_cases hl : l ∈ s.names
      · simp [hl, firstRepeat]
      · simp only [hl, if_false, firstRepeat]
        rw [ih, place_label_names]
        rfl

theorem extend_words (s : Layout) (p : List Item) :
    (s.extend p).words.toList = s.words.toList ++ (Program.cells p).map Cell.word := by
  induction p generalizing s with
  | nil => simp [Program.cells]
  | cons x p ih =>
    rw [extend_cons, ih, place_words]
    simp [Program.cells]

theorem extend_words_size (s : Layout) (p : List Item) :
    (s.extend p).words.size = s.words.size + Program.size p := by
  induction p generalizing s with
  | nil => rfl
  | cons x p ih =>
    rw [extend_cons, ih, place_words_size, Program.size_cons]
    omega

theorem extend_fixups (s : Layout) (p : List Item) :
    (s.extend p).fixups.toList =
      s.fixups.toList ++ Cell.fixupsFrom s.words.size (Program.cells p) := by
  induction p generalizing s with
  | nil => simp [Program.cells, Cell.fixupsFrom]
  | cons x p ih =>
    rw [extend_cons, ih, place_fixups, place_words_size, Program.cells_cons,
      Cell.fixupsFrom_append]
    simp [Item.size]

/-- After placing a program in which no label repeats, a label the program defines has
the address of its definition, counted from the words written before, and every other
label keeps the address it had. -/
theorem lookup_extend (s : Layout) (p : List Item)
    (h : firstRepeat s.names (Program.labelDefs p) = none) (l : String) :
    (s.extend p).symbols.lookup l = match Program.address? l p with
      | some a => some (s.words.size + a)
      | none => s.symbols.lookup l := by
  induction p generalizing s with
  | nil => rfl
  | cons x p ih =>
    cases x with
    | instr i =>
      rw [Program.labelDefs_instr_cons, ← place_instr_names s i] at h
      rw [extend_cons, ih _ h, Program.address?, if_neg (by simp)]
      cases Program.address? l p with
      | none => simp [place, foldl_addCell_symbols]
      | some a => simp [Item.size, Nat.add_assoc]
    | label m =>
      have hm : m ∉ s.names := by
        intro hm
        simp [firstRepeat, hm] at h
      rw [Program.labelDefs_label_cons, firstRepeat, if_neg hm, ← place_label_names s m] at h
      rw [extend_cons, ih _ h]
      by_cases hl : l = m
      · subst hl
        have hfresh : l ∉ Program.labelDefs p := by
          intro hdef
          have hnot := ((firstRepeat_eq_none_iff _ _).mp h).2 l hdef
          exact hnot (by simp)
        rw [(Program.address?_eq_none_iff l p).mpr hfresh]
        simp [Program.address?, place]
      · have hne : Item.label m ≠ Item.label l := by simp [Ne.symm hl]
        rw [Program.address?, if_neg hne]
        cases Program.address? l p with
        | none =>
          have hbeq : (l == m) = false := by simpa using hl
          simp [place, List.lookup_cons, hbeq]
        | some a => simp [Item.size, Item.cells]

/-- From nothing, the table answers with each label's address in the program. -/
theorem lookup_extend_empty {p : List Item} (h : firstRepeat [] (Program.labelDefs p) = none)
    (l : String) : (empty.extend p).symbols.lookup l = Program.address? l p := by
  rw [lookup_extend empty p h l]
  cases Program.address? l p <;> simp [empty]

theorem extend_empty_fixups (p : List Item) :
    (empty.extend p).fixups.toList = Cell.fixupsFrom 0 (Program.cells p) := by
  simpa [empty] using extend_fixups empty p

end Assembly.Layout

end Dcpu16Asm
