import Dcpu16Asm.Proofs.Resolution

/-!
Assembling program lines while they are read. The first pass takes each line's items as
soon as the line is read, so it meets failures of reading and labels defined twice in
the order they stand in the text. The streaming pass is the first pass over the items
read before the first failure of reading, followed by that failure (`runLines_eq`). So
a label defined twice among those items is reported even when reading fails later,
otherwise the failure of reading is, and a program read without failure assembles as
its items do (`assembleLines_first_error`).
-/
namespace Dcpu16Asm.Assembly

open Program

/-- The streaming first pass is the first pass over the items read before the first
failure of reading, and then that failure. -/
theorem Layout.runLines_eq (s : Layout) (lines : List String) :
    s.runLines lines = match s.run (parseLines lines).items with
      | .error e => .error e
      | .ok s' => match (parseLines lines).halt with
        | some e => .error e
        | none => .ok s' := by
  induction lines generalizing s with
  | nil => rfl
  | cons line rest ih =>
    cases hhalt : (parseLine line).halt with
    | some e =>
      have hlines : parseLines (line :: rest) = parseLine line := by
        simp [parseLines, Parsed.andThen, hhalt]
      rewrite [hlines, Layout.runLines, hhalt]
      cases s.run (parseLine line).items <;> rfl
    | none =>
      have hlines : parseLines (line :: rest) =
          ⟨(parseLine line).items ++ (parseLines rest).items, (parseLines rest).halt⟩ := by
        simp [parseLines, Parsed.andThen, hhalt]
      rw [hlines, Layout.runLines, hhalt, Layout.run_append]
      cases s.run (parseLine line).items with
      | error e => rfl
      | ok s' => exact ih s'

theorem assembleLines_eq (lines : List String) :
    assembleLines lines = match Layout.empty.run (parseLines lines).items with
      | .error e => .error e
      | .ok s => match (parseLines lines).halt with
        | some e => .error e
        | none => s.patch := by
  unfold assembleLines
  rw [Layout.runLines_eq]
  cases Layout.empty.run (parseLines lines).items with
  | error e => rfl
  | ok s => cases (parseLines lines).halt <;> rfl

theorem assembleLines_eq_assemble (lines : List String) (h : (parseLines lines).halt = none) :
    assembleLines lines = assemble (parseLines lines).items := by
  rw [assembleLines_eq, h]
  unfold assemble
  cases Layout.empty.run (parseLines lines).items <;> rfl

theorem assembleLines_eq_ok_iff (lines : List String) (ws : List Nat) :
    assembleLines lines = .ok ws ↔
      (parseLines lines).halt = none ∧ assemble (parseLines lines).items = .ok ws := by
  cases hhalt : (parseLines lines).halt with
  | none => simp [assembleLines_eq_assemble lines hhalt]
  | some e =>
    rw [assembleLines_eq, hhalt]
    cases Layout.empty.run (parseLines lines).items <;> simp

/-- Assembling lines as they are read reports the first failure in the order of the
text. Among the items read before the first failure of reading, a label defined twice
is reported first, even when reading fails later; otherwise the failure of reading is
reported; and a program read without failure assembles as its items do. So lines
assemble exactly when every line reads and its items assemble, and to the same words. -/
theorem assembleLines_first_error (lines : List String) :
    (∀ pre l post, labelDefs (parseLines lines).items = pre ++ l :: post → pre.Nodup →
      l ∈ pre → assembleLines lines = .error (.duplicateLabel l)) ∧
    ((labelDefs (parseLines lines).items).Nodup → ∀ e, (parseLines lines).halt = some e →
      assembleLines lines = .error e) ∧
    ((parseLines lines).halt = none → assembleLines lines = assemble (parseLines lines).items) ∧
    (∀ ws, assembleLines lines = .ok ws ↔
      ((parseLines lines).toExcept >>= assemble) = .ok ws) := by
  refine ⟨?_, ?_, assembleLines_eq_assemble lines, ?_⟩
  · intro pre l post hdefs hpre hl
    have hrep : firstRepeat [] (labelDefs (parseLines lines).items) = some l :=
      (firstRepeat_nil_eq_some_iff _ l).mpr ⟨pre, post, hdefs, hpre, hl⟩
    rw [assembleLines_eq, Layout.run_eq, Layout.empty_names, hrep]
  · intro hnodup e he
    have hrep : firstRepeat [] (labelDefs (parseLines lines).items) = none :=
      (firstRepeat_nil_eq_none_iff _).mpr hnodup
    rw [assembleLines_eq, Layout.run_eq, Layout.empty_names, hrep, he]
  · intro ws
    rw [assembleLines_eq_ok_iff, Parsed.toExcept]
    cases (parseLines lines).halt with
    | none => exact ⟨fun h => h.2, fun h => ⟨rfl, h⟩⟩
    | some e => exact ⟨fun h => absurd h.1 (by simp), fun h => by cases h⟩

end Dcpu16Asm.Assembly
