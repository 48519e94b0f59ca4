import Dcpu16Asm.Proofs.SecondPass

/-!
Assembly against the declarative reading of a program. The two passes compute what
`Program.resolved?` describes without them: the words of every cell in order, with each
reference replaced by the address of its label, the number of words before the label's
definition. Assembly succeeds exactly when no label is defined twice and every label
referred to is defined. Otherwise it reports the first definition that repeats an
earlier name, and failing that the first reference, in order of position, to a label
that is never defined (`assemble_eq`, `assemble_label_resolution`).
-/
namespace Dcpu16Asm

namespace Program

theorem labelRefs_eq_filterMap_cells (p : List Item) :
    labelRefs p = (cells p).filterMap Cell.ref := by
  simp only [labelRefs, cells, List.filterMap_flatMap]
  rfl

theorem address?_eq_some_of_mem (l : String) (p : List Item) (hl : l ∈ labelDefs p) :
    ∃ a, address? l p = some a := by
  cases h : address? l p with
  | none => exact absurd hl ((address?_eq_none_iff l p).mp h)
  | some a => exact ⟨a, rfl⟩

/-- How `resolved?` reads one cell: its word, or the address of the label it refers to. -/
def resolveCell? (p : List Item) (c : Cell) : Option Nat :=
  match c.ref with
  | none => some c.word
  | some l => address? l p

theorem resolved?_eq (p : List Item) : resolved? p = (cells p).mapM (resolveCell? p) := rfl

theorem mapM_resolveCell?_of_defined (p : List Item) (cs : List Cell)
    (h : ∀ l ∈ cs.filterMap Cell.ref, l ∈ labelDefs p) :
    cs.mapM (resolveCell? p) = some (cs.map (Cell.resolve (address? · p))) := by
  induction cs with
  | nil => rfl
  | cons c cs ih =>
    cases hc : c.ref with
    | none =>
      rw [List.filterMap_cons_none hc] at h
      simp [resolveCell?, Cell.resolve, hc, ih h]
    | some l =>
      rw [List.filterMap_cons_some hc, List.forall_mem_cons] at h
      obtain ⟨a, ha⟩ := address?_eq_some_of_mem l p h.1
      simp [resolveCell?, Cell.resolve, hc, ha, ih h.2]

theorem mapM_resolveCell?_of_undefined (p : List Item) (cs : List Cell) (l : String)
    (hl : l ∈ cs.filterMap Cell.ref) (hundef : l ∉ labelDefs p) :
    cs.mapM (resolveCell? p) = none := by
  induction cs with
  | nil => simp at hl
  | cons c cs ih =>
    cases hc : c.ref with
    | none =>
      rw [List.filterMap_cons_none hc] at hl
      simp [resolveCell?, hc, ih hl]
    | some m =>
      rw [List.filterMap_cons_some hc] at hl
      rcases List.mem_cons.mp hl with rfl | hl
      · have hnone := (address?_eq_none_iff l p).mpr hundef
        simp [resolveCell?, hc, hnone]
      · cases hm : address? m p <;> simp [resolveCell?, hc, hm, ih hl]

/-- A program's resolved words exist exactly when every label it refers to is defined,
and they are its cells' words with each reference replaced by its label's address. -/
theorem resolved?_eq_some_iff (p : List Item) (ws : List Nat) :
    resolved? p = some ws ↔
      (∀ l ∈ labelRefs p, l ∈ labelDefs p) ∧
        ws = (cells p).map (Cell.resolve (address? · p)) := by
  rw [resolved?_eq, labelRefs_eq_filterMap_cells]
  by_cases hdef : ∀ l ∈ (cells p).filterMap Cell.ref, l ∈ labelDefs p
  · rw [mapM_resolveCell?_of_defined p _ hdef, Option.some.injEq]
    exact ⟨fun h => ⟨hdef, h.symm⟩, fun h => h.2.symm⟩
  · have hsome : ∃ l ∈ (cells p).filterMap Cell.ref, l ∉ labelDefs p := by
      simpa only [Classical.not_forall, exists_prop] using hdef
    obtain ⟨l, hl, hundef⟩ := hsome
    rw [mapM_resolveCell?_of_undefined p _ l hl hundef]
    exact ⟨fun h => absurd h (by simp), fun h => absurd h.1 hdef⟩

end Program

namespace Assembly

open Program

/-- The second pass after a first pass from nothing, in closed form. -/
theorem patch_extend_empty (p : List Item) (h : firstRepeat [] (labelDefs p) = none) :
    (Layout.empty.extend p).patch =
      match (labelRefs p).find? (fun l => l ∉ labelDefs p) with
      | some l => .error (.undefinedLabel l)
      | none => .ok ((cells p).map (Cell.resolve (address? · p))) := by
  have hsymbols : (fun l => (Layout.empty.extend p).symbols.lookup l) = (address? · p) :=
    funext (Layout.lookup_extend_empty h)
  have hundefined : (fun l => ((Layout.empty.extend p).symbols.lookup l).isNone) =
      (fun l => decide (l ∉ labelDefs p)) := by
    funext l
    rw [congrFun hsymbols l, Bool.eq_iff_iff, Option.isNone_iff_eq_none, address?_eq_none_iff,
      decide_eq_true_iff]
  have hwords : (Layout.empty.extend p).words = ([] ++ (cells p).map Cell.word).toArray := by
    apply Array.toList_inj.mp
    simp [Layout.extend_words, Layout.empty]
  have hfixups : (Layout.empty.extend p).fixups.toList =
      Cell.fixupsFrom ([] : List Nat).length (cells p) :=
    Layout.extend_empty_fixups p
  unfold Layout.patch
  rw [hfixups, hwords, Layout.foldlM_patchOne_fixupsFrom, hundefined, hsymbols,
    ← labelRefs_eq_filterMap_cells]
  cases (labelRefs p).find? (fun l => decide (l ∉ labelDefs p)) <;> rfl

/-- Assembly in closed form: the first label defined twice, else the first reference to
a label never defined, else the resolved words. -/
theorem assemble_eq (p : List Item) :
    assemble p = match firstRepeat [] (labelDefs p) with
      | some l => .error (.duplicateLabel l)
      | none => match (labelRefs p).find? (fun l => l ∉ labelDefs p) with
        | some l => .error (.undefinedLabel l)
        | none => .ok ((cells p).map (Cell.resolve (address? · p))) := by
  unfold assemble
  rw [Layout.run_eq, Layout.empty_names]
  cases h : firstRepeat [] (labelDefs p) with
  | some l => rfl
  | none => exact patch_extend_empty p h

theorem assemble_eq_ok_iff (p : List Item) (ws : List Nat) :
    assemble p = .ok ws ↔
      (labelDefs p).Nodup ∧ (∀ l ∈ labelRefs p, l ∈ labelDefs p) ∧
        ws = (cells p).map (Cell.resolve (address? · p)) := by
  rw [assemble_eq]
  cases hrep : firstRepeat [] (labelDefs p) with
  | some l =>
    have hdup : ¬(labelDefs p).Nodup := by
      rw [← firstRepeat_nil_eq_none_iff, hrep]
      simp
    simp [hdup]
  | none =>
    have hnodup : (labelDefs p).Nodup := (firstRepeat_nil_eq_none_iff _).mp hrep
    cases hfind : (labelRefs p).find? (fun l => l ∉ labelDefs p) with
    | some l =>
      obtain ⟨hundef, -⟩ := List.find?_eq_some_iff_append.mp hfind
      have hl : l ∈ labelRefs p := List.mem_of_find?_eq_some hfind
      simp only [decide_eq_true_eq] at hundef
      simp only [reduceCtorEq, false_iff, not_and]
      exact fun _ hdef => absurd (hdef l hl) hundef
    | none =>
      have hdef : ∀ l ∈ labelRefs p, l ∈ labelDefs p := by
        simpa using List.find?_eq_none.mp hfind
      simp only [Except.ok.injEq]
      exact ⟨fun h => ⟨hnodup, hdef, h.symm⟩, fun h => h.2.2.symm⟩

theorem assemble_eq_duplicateLabel (p : List Item) (pre post : List String) (l : String)
    (hdefs : labelDefs p = pre ++ l :: post) (hpre : pre.Nodup) (hl : l ∈ pre) :
    assemble p = .error (.duplicateLabel l) := by
  have hrep : firstRepeat [] (labelDefs p) = some l :=
    (firstRepeat_nil_eq_some_iff _ l).mpr ⟨pre, post, hdefs, hpre, hl⟩
  rw [assemble_eq, hrep]

theorem assemble_eq_undefinedLabel (p : List Item) (pre post : List String) (l : String)
    (hnodup : (labelDefs p).Nodup) (hrefs : labelRefs p = pre ++ l :: post)
    (hpre : ∀ m ∈ pre, m ∈ labelDefs p) (hl : l ∉ labelDefs p) :
    assemble p = .error (.undefinedLabel l) := by
  have hrep : firstRepeat [] (labelDefs p) = none := (firstRepeat_nil_eq_none_iff _).mpr hnodup
  have hfind : (labelRefs p).find? (fun l => l ∉ labelDefs p) = some l := by
    refine List.find?_eq_some_iff_append.mpr ⟨by simpa using hl, pre, post, hrefs, ?_⟩
    intro m hm
    simpa using hpre m hm
  rw [assemble_eq, hrep]
  simp only [hfind]

/-- Two-pass label resolution meets the declarative reading of a program. Assembly
succeeds exactly when no label is defined twice and every label referred to is
defined, and then gives the resolved words. Otherwise it reports the earliest
definition that repeats an earlier name, and without one the reference of least
position to a label never defined. -/
theorem assemble_label_resolution (p : List Item) :
    ((∃ ws, assemble p = .ok ws) ↔
      (labelDefs p).Nodup ∧ ∀ l ∈ labelRefs p, l ∈ labelDefs p) ∧
    (∀ ws, assemble p = .ok ws → resolved? p = some ws) ∧
    (∀ pre l post, labelDefs p = pre ++ l :: post → pre.Nodup → l ∈ pre →
      assemble p = .error (.duplicateLabel l)) ∧
    ((labelDefs p).Nodup → ∀ pre l post, labelRefs p = pre ++ l :: post →
      (∀ m ∈ pre, m ∈ labelDefs p) → l ∉ labelDefs p →
      assemble p = .error (.undefinedLabel l)) := by
  refine ⟨⟨?_, ?_⟩, ?_, ?_, ?_⟩
  · rintro ⟨ws, h⟩
    obtain ⟨hnodup, hdef, -⟩ := (assemble_eq_ok_iff p ws).mp h
    exact ⟨hnodup, hdef⟩
  · rintro ⟨hnodup, hdef⟩
    exact ⟨_, (assemble_eq_ok_iff p _).mpr ⟨hnodup, hdef, rfl⟩⟩
  · intro ws h
    obtain ⟨-, hdef, hws⟩ := (assemble_eq_ok_iff p ws).mp h
    exact (resolved?_eq_some_iff p ws).mpr ⟨hdef, hws⟩
  · intro pre l post hdefs hpre hl
    exact assemble_eq_duplicateLabel p pre post l hdefs hpre hl
  · intro hnodup pre l post hrefs hpre hl
    exact assemble_eq_undefinedLabel p pre post l hnodup hrefs hpre hl

end Assembly

end Dcpu16Asm
