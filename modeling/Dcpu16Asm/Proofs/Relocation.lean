import Dcpu16Asm.Proofs.Resolution

/-!
Relocation. Two programs that each assemble, and share no label definition, assemble
one after the other to the words of the first, followed by the words of the second
moved by the size of the first: every reference of the second program now points
past the first, and every other word, a literal 0 included, is kept
(`assemble_append`).
-/
namespace Dcpu16Asm

/-- The word `w` of a cell placed `k` words later: a reference moves by `k`, any other
word is kept. -/
def Cell.relocate (k : Nat) (c : Cell) (w : Nat) : Nat :=
  if c.ref.isSome then w + k else w

namespace Program

/-- A label of a program read in two parts has the address of its definition in the
first part, or else of its definition in the second, moved by the size of the first. -/
theorem address?_append (l : String) (p q : List Item) :
    address? l (p ++ q) = match address? l p with
      | some a => some a
      | none => (address? l q).map (size p + ·) := by
  induction p with
  | nil => simp [address?]
  | cons x p ih =>
    by_cases hx : x = .label l
    · simp [address?, hx]
    · simp only [List.cons_append, address?, if_neg hx, ih]
      cases address? l p with
      | some a => rfl
      | none => cases address? l q <;> simp [Nat.add_assoc]

theorem mem_labelRefs_of_mem_cells {p : List Item} {c : Cell} {l : String}
    (hc : c ∈ cells p) (hl : c.ref = some l) : l ∈ labelRefs p := by
  rw [labelRefs_eq_filterMap_cells, List.mem_filterMap]
  exact ⟨c, hc, hl⟩

/-- The words of a program that assembles, in closed form. -/
theorem eq_map_resolve_of_assemble {p : List Item} {ws : List Nat}
    (h : Assembly.assemble p = .ok ws) :
    ws = (cells p).map (Cell.resolve (address? · p)) :=
  ((Assembly.assemble_eq_ok_iff p ws).mp h).2.2

theorem length_eq_size_of_assemble {p : List Item} {ws : List Nat}
    (h : Assembly.assemble p = .ok ws) : ws.length = size p := by
  rw [eq_map_resolve_of_assemble h, List.length_map, length_cells]

end Program

/-- Resolving a cell only reads the address of the label it refers to. -/
theorem Cell.resolve_congr {f g : String → Option Nat} {c : Cell}
    (h : ∀ l, c.ref = some l → f l = g l) : c.resolve f = c.resolve g := by
  unfold Cell.resolve
  cases hc : c.ref with
  | none => rfl
  | some l =>
    dsimp only
    rw [h l hc]

namespace Assembly

open Program

variable {p q : List Item} {wp wq : List Nat}

/-- In a program that assembles, every reference resolves as it does after anything is
appended: the label it names is defined in the program itself. -/
theorem resolve_append_left (hp : assemble p = .ok wp) (c : Cell) (hc : c ∈ cells p) :
    c.resolve (address? · (p ++ q)) = c.resolve (address? · p) := by
  apply Cell.resolve_congr
  intro l hl
  have hdef := ((assemble_eq_ok_iff p wp).mp hp).2.1 l (mem_labelRefs_of_mem_cells hc hl)
  obtain ⟨a, ha⟩ := address?_eq_some_of_mem l p hdef
  simp [address?_append, ha]

/-- In a program that assembles after one that defines none of its labels, every
reference moves by the size of the program before it. -/
theorem resolve_append_right (hq : assemble q = .ok wq)
    (hdisj : ∀ l ∈ labelDefs p, l ∉ labelDefs q) (c : Cell) (hc : c ∈ cells q) :
    c.resolve (address? · (p ++ q)) = c.relocate (size p) (c.resolve (address? · q)) := by
  unfold Cell.relocate Cell.resolve
  cases hl : c.ref with
  | none => rfl
  | some l =>
    have hdef := ((assemble_eq_ok_iff q wq).mp hq).2.1 l (mem_labelRefs_of_mem_cells hc hl)
    have hnone : address? l p = none :=
      (address?_eq_none_iff l p).mpr fun hp => hdisj l hp hdef
    obtain ⟨a, ha⟩ := address?_eq_some_of_mem l q hdef
    simp [address?_append, hnone, ha, Nat.add_comm]

/-- Two programs that assemble and define no label in common define no label twice. -/
theorem nodup_labelDefs_append (hp : assemble p = .ok wp) (hq : assemble q = .ok wq)
    (hdisj : ∀ l ∈ labelDefs p, l ∉ labelDefs q) : (labelDefs (p ++ q)).Nodup := by
  obtain ⟨hnodup_p, -, -⟩ := (assemble_eq_ok_iff p wp).mp hp
  obtain ⟨hnodup_q, -, -⟩ := (assemble_eq_ok_iff q wq).mp hq
  rw [labelDefs_append, List.nodup_append]
  exact ⟨hnodup_p, hnodup_q, fun a ha b hb hab => hdisj a ha (hab ▸ hb)⟩

/-- Every label that two programs which assemble refer to is defined in one of them. -/
theorem mem_labelDefs_append_of_mem_labelRefs (hp : assemble p = .ok wp)
    (hq : assemble q = .ok wq) : ∀ l ∈ labelRefs (p ++ q), l ∈ labelDefs (p ++ q) := by
  obtain ⟨-, hdef_p, -⟩ := (assemble_eq_ok_iff p wp).mp hp
  obtain ⟨-, hdef_q, -⟩ := (assemble_eq_ok_iff q wq).mp hq
  intro l hl
  rw [labelRefs_append, List.mem_append] at hl
  rw [labelDefs_append, List.mem_append]
  rcases hl with hl | hl
  · exact Or.inl (hdef_p l hl)
  · exact Or.inr (hdef_q l hl)

/-- The cells of two programs, resolved together: the words of the first, then those of
the second with every reference moved past the first. -/
theorem map_resolve_append (hp : assemble p = .ok wp) (hq : assemble q = .ok wq)
    (hdisj : ∀ l ∈ labelDefs p, l ∉ labelDefs q) :
    (cells (p ++ q)).map (Cell.resolve (address? · (p ++ q))) =
      wp ++ List.zipWith (Cell.relocate wp.length) (cells q) wq := by
  have hleft : wp = (cells p).map (Cell.resolve (address? · (p ++ q))) := by
    rw [eq_map_resolve_of_assemble hp]
    exact (List.map_congr_left fun c hc => resolve_append_left hp c hc).symm
  have hright : List.zipWith (Cell.relocate wp.length) (cells q) wq =
      (cells q).map (Cell.resolve (address? · (p ++ q))) := by
    rw [eq_map_resolve_of_assemble hq, List.zipWith_map_right, List.zipWith_self,
      length_eq_size_of_assemble hp]
    exact (List.map_congr_left fun c hc => resolve_append_right hq hdisj c hc).symm
  rw [hright, hleft, cells_append, List.map_append]

/-- Relocation law. Two programs that assemble on their own and define no label in
common assemble one after the other: the words of the first, then those of the second
with the size of the first added to each reference and every other word kept. -/
theorem assemble_append (hp : assemble p = .ok wp) (hq : assemble q = .ok wq)
    (hdisj : ∀ l ∈ labelDefs p, l ∉ labelDefs q) :
    assemble (p ++ q) = .ok (wp ++ List.zipWith (Cell.relocate wp.length) (cells q) wq) :=
  (assemble_eq_ok_iff (p ++ q) _).mpr ⟨nodup_labelDefs_append hp hq hdisj,
    mem_labelDefs_append_of_mem_labelRefs hp hq, (map_resolve_append hp hq hdisj).symm⟩

/-- `:a JSR a` followed by `SET A, [0]` and `:b JSR b`: the reference to `b` moves by two
words, and the literal 0 of `[0]` stays 0. -/
theorem assemble_append_jsr_loops :
    assemble [.label "a", .instr (.jsr (.next (.ref "a")))] = .ok [0x7c10, 0] ∧
    assemble [.instr (.basic .set (.reg .a) (.derefNext (.num 0))), .label "b",
      .instr (.jsr (.next (.ref "b")))] = .ok [0x7801, 0, 0x7c10, 2] ∧
    (∀ l ∈ labelDefs [.label "a", .instr (.jsr (.next (.ref "a")))],
      l ∉ labelDefs [.instr (.basic .set (.reg .a) (.derefNext (.num 0))), .label "b",
        .instr (.jsr (.next (.ref "b")))]) ∧
    assemble ([.label "a", .instr (.jsr (.next (.ref "a")))] ++
        [.instr (.basic .set (.reg .a) (.derefNext (.num 0))), .label "b",
          .instr (.jsr (.next (.ref "b")))]) =
      .ok ([0x7c10, 0] ++ List.zipWith (Cell.relocate [0x7c10, 0].length)
        (cells [.instr (.basic .set (.reg .a) (.derefNext (.num 0))), .label "b",
          .instr (.jsr (.next (.ref "b")))]) [0x7801, 0, 0x7c10, 2]) :=
  have hp : assemble [.label "a", .instr (.jsr (.next (.ref "a")))] = .ok [0x7c10, 0] := rfl
  have hq : assemble [.instr (.basic .set (.reg .a) (.derefNext (.num 0))), .label "b",
      .instr (.jsr (.next (.ref "b")))] = .ok [0x7801, 0, 0x7c10, 2] := rfl
  have hdisj : ∀ l ∈ labelDefs [.label "a", .instr (.jsr (.next (.ref "a")))],
      l ∉ labelDefs [.instr (.basic .set (.reg .a) (.derefNext (.num 0))), .label "b",
        .instr (.jsr (.next (.ref "b")))] := by decide
  ⟨hp, hq, hdisj, assemble_append hp hq hdisj⟩

example : List.zipWith (Cell.relocate 2)
    (cells [.instr (.basic .set (.reg .a) (.derefNext (.num 0))), .label "b",
      .instr (.jsr (.next (.ref "b")))]) [0x7801, 0, 0x7c10, 2] = [0x7801, 0, 0x7c10, 4] := by
  decide

end Assembly

end Dcpu16Asm
