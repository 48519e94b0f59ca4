import Dcpu16Asm.Proofs.Streaming

/-!
Which failures reach the user. Reading and assembling fail mostly with the assembler's
own complaints (`AsmError.isComplaint`). Two faults of an instruction's fields escape
that: a known mnemonic with the wrong number of operands, whose complaint cannot be
written, and a first of two operands that is a lone comma, which leaves an empty operand.
The only other failure is a decimal literal too long to convert. A first operand with no
characters at all cannot arise from a line, since fields are never empty
(`assembleLines_error_cases`).
-/
namespace Dcpu16Asm

namespace Text

theorem ne_nil_of_mem_fieldRuns (cur cs : List Char) :
    ∀ r ∈ fieldRuns cur cs, r ≠ [] := by
  induction cs generalizing cur with
  | nil =>
    intro r hr
    cases cur with
    | nil => simp [fieldRuns] at hr
    | cons c cur =>
      simp only [fieldRuns, List.isEmpty_cons, Bool.false_eq_true, if_false,
        List.mem_singleton] at hr
      simp [hr]
  | cons c cs ih =>
    intro r hr
    unfold fieldRuns at hr
    split at hr
    · split at hr
      · exact ih [] r hr
      · rcases List.mem_cons.mp hr with rfl | hr
        · simpa using ‹¬cur.isEmpty = true›
        · exact ih [] r hr
    · exact ih (c :: cur) r hr

/-- No field of a line is empty. -/
theorem ne_empty_of_mem_fields (s t : String) (h : t ∈ fields s) : t ≠ "" := by
  obtain ⟨r, hr, rfl⟩ := List.mem_map.mp h
  rw [Ne, String.ofList_eq_empty_iff]
  exact ne_nil_of_mem_fieldRuns [] s.toList r hr

end Text

namespace Operand

theorem ofBody_eq_error (indirect : Bool) (offset : Option Register) (body : List Char)
    (e : AsmError) (h : ofBody indirect offset body = .error e) :
    e.isComplaint ∨ ∃ d, e = .literalTooLong d := by
  unfold ofBody at h
  split at h
  · split at h
    · cases h
      exact Or.inr ⟨_, rfl⟩
    · cases h
  · split at h
    · cases h
    · split at h
      · cases h
      · cases h
        exact Or.inl rfl

/-- An operand fails to read only when its text is empty, with a complaint, or with a
decimal literal too long to convert. -/
theorem parse_eq_error (t : String) (e : AsmError) (h : parse t = .error e) :
    (t = "" ∧ e = .emptyToken) ∨ e.isComplaint ∨ ∃ d, e = .literalTooLong d := by
  unfold parse at h
  split at h
  · cases h
    exact Or.inl ⟨String.isEmpty_iff.mp ‹_›, rfl⟩
  · generalize unbracket t.toList = q at h
    obtain ⟨indirect, inner⟩ := q
    dsimp only at h
    split at h
    · cases h
    · split at h
      · cases h
      · split at h
        · split at h
          · exact Or.inr (ofBody_eq_error _ _ _ e h)
          · cases h
            exact Or.inr (Or.inl rfl)
        · exact Or.inr (ofBody_eq_error _ _ _ e h)

end Operand

namespace Instruction

/-- The faults of an instruction's fields that reading does not report as a complaint
of its own: a known mnemonic with the wrong number of operands, and a first of two
operands that is a lone comma. -/
def UnreportedFault (name : String) (operands : List String) (e : AsmError) : Prop :=
  (∃ m, Mnemonic.ofName? name = some m ∧ 0 < operands.length ∧ operands.length ≤ 2 ∧
      operands.length ≠ m.arity ∧ e = .operandCount m) ∨
    ∃ op u, Mnemonic.ofName? name = some (.basic op) ∧ operands = [",", u] ∧ e = .emptyToken

/-- A first operand whose last character is a comma and which is empty without it is a
lone comma. -/
theorem eq_comma_of_dropLast_eq_nil (t : String) (h : t.toList.getLast? = some ',')
    (hdrop : t.toList.dropLast = []) : t = "," := by
  obtain ⟨ys, hys⟩ := List.getLast?_eq_some_iff.mp h
  have hlist : t.toList = [','] := by
    rw [hys, List.dropLast_concat] at hdrop
    rw [hys, hdrop]
    rfl
  exact String.toList_inj.mp hlist

theorem ofFields_eq_error (name : String) (ops : List String) (e : AsmError)
    (hne : ∀ t ∈ ops, t ≠ "") (hlen : 0 < ops.length ∧ ops.length ≤ 2)
    (h : ofFields name ops = .error e) :
    e.isComplaint ∨ (∃ d, e = .literalTooLong d) ∨ UnreportedFault name ops e := by
  unfold ofFields at h
  split at h
  · cases h
    exact Or.inl rfl
  · rename_i m hm
    split at h
    · rename_i t
      cases hp : Operand.parse t with
      | ok a =>
        simp only [hp] at h
        cases h
      | error e' =>
        simp only [hp] at h
        cases h
        rcases Operand.parse_eq_error t e hp with ⟨ht, -⟩ | hc | hlit
        · exact absurd ht (hne t (by simp))
        · exact Or.inl hc
        · exact Or.inr (Or.inl hlit)
    · rename_i op t u
      split at h
      · rename_i hlast
        have ht : t.toList ≠ [] := by
          intro hnil
          exact hne t (by simp) (String.toList_inj.mp (by simpa using hnil))
        simp [List.getLast?_eq_none_iff, ht] at hlast
      · rename_i c hlast
        split at h
        · subst c
          cases ha : Operand.parse (String.ofList t.toList.dropLast) with
          | error e' =>
            simp only [ha] at h
            cases h
            rcases Operand.parse_eq_error _ e ha with ⟨hempty, rfl⟩ | hc | hlit
            · have hdrop := String.ofList_eq_empty_iff.mp hempty
              have hcomma := eq_comma_of_dropLast_eq_nil t hlast hdrop
              exact Or.inr (Or.inr (Or.inr ⟨op, u, hm, by rw [hcomma], rfl⟩))
            · exact Or.inl hc
            · exact Or.inr (Or.inl hlit)
          | ok a =>
            cases hb : Operand.parse u with
            | error e' =>
              simp only [ha, hb] at h
              cases h
              rcases Operand.parse_eq_error u e hb with ⟨hu, -⟩ | hc | hlit
              · exact absurd hu (hne u (by simp))
              · exact Or.inl hc
              · exact Or.inr (Or.inl hlit)
            | ok b =>
              simp only [ha, hb] at h
              cases h
        · cases h
          exact Or.inl rfl
    · rename_i hjsr hbasic
      cases h
      refine Or.inr (Or.inr (Or.inl ⟨m, hm, hlen.1, hlen.2, ?_, rfl⟩))
      cases m with
      | jsr =>
        intro h1
        obtain ⟨t, rfl⟩ := List.length_eq_one_iff.mp h1
        exact hjsr t rfl rfl
      | basic op =>
        intro h2
        simp only [Mnemonic.arity] at h2
        obtain ⟨t, rest, rfl⟩ := List.exists_cons_of_length_eq_add_one h2
        obtain ⟨u, rfl⟩ := List.length_eq_one_iff.mp (by simpa using h2)
        exact hbasic op t u rfl rfl

/-- Instruction fields that are not empty fail to read with a complaint, with a decimal
literal too long to convert, or with a fault that reading does not report. -/
theorem parse_eq_error (ts : List String) (e : AsmError) (hne : ∀ t ∈ ts, t ≠ "")
    (h : parse ts = .error e) :
    e.isComplaint ∨ (∃ d, e = .literalTooLong d) ∨
      ∃ name ops, ts = name :: ops ∧ UnreportedFault name ops e := by
  unfold parse at h
  split at h
  · rename_i name t
    rcases ofFields_eq_error name [t] e (fun x hx => hne x (by simp_all)) (by simp) h with
      hc | hlit | hfault
    · exact Or.inl hc
    · exact Or.inr (Or.inl hlit)
    · exact Or.inr (Or.inr ⟨name, [t], rfl, hfault⟩)
  · rename_i name t u
    rcases ofFields_eq_error name [t, u] e (fun x hx => hne x (by simp_all)) (by simp) h with
      hc | hlit | hfault
    · exact Or.inl hc
    · exact Or.inr (Or.inl hlit)
    · exact Or.inr (Or.inr ⟨name, [t, u], rfl, hfault⟩)
  · cases h
    exact Or.inl rfl

end Instruction

/-- A label definition that begins with a colon fails to read only with a complaint. -/
theorem Item.parseLabel_eq_error (t : String) (e : AsmError) (hcolon : t.toList.head? = some ':')
    (h : Item.parseLabel t = .error e) : e.isComplaint := by
  unfold Item.parseLabel at h
  split at h
  · rename_i hnil
    simp [hnil] at hcolon
  · cases h
  · cases h
    rfl

/-- The fields of a line fail to read with a complaint, with a decimal literal too long to
convert, or with a fault of the instruction after the line's labels. -/
theorem parseFields_halt (ts : List String) (e : AsmError) (hne : ∀ t ∈ ts, t ≠ "")
    (h : (parseFields ts).halt = some e) :
    e.isComplaint ∨ (∃ d, e = .literalTooLong d) ∨
      ∃ labels name ops, ts = labels ++ name :: ops ∧
        (∀ l ∈ labels, l.toList.head? = some ':') ∧ Instruction.UnreportedFault name ops e := by
  induction ts with
  | nil => simp [parseFields, Parsed.empty] at h
  | cons t ts ih =>
    unfold parseFields at h
    split at h
    · rename_i hcolon
      split at h
      · rcases ih (fun x hx => hne x (List.mem_cons_of_mem t hx)) h with
          hc | hlit | ⟨labels, name, ops, rfl, hlabels, hfault⟩
        · exact Or.inl hc
        · exact Or.inr (Or.inl hlit)
        · exact Or.inr (Or.inr ⟨t :: labels, name, ops, rfl,
            List.forall_mem_cons.mpr ⟨hcolon, hlabels⟩, hfault⟩)
      · rename_i hl
        simp only [Parsed.failed, Option.some.injEq] at h
        subst h
        exact Or.inl (Item.parseLabel_eq_error t _ hcolon hl)
    · split at h
      · simp at h
      · rename_i hi
        simp only [Parsed.failed, Option.some.injEq] at h
        subst h
        rcases Instruction.parse_eq_error (t :: ts) _ hne hi with
          hc | hlit | ⟨name, ops, hts, hfault⟩
        · exact Or.inl hc
        · exact Or.inr (Or.inl hlit)
        · exact Or.inr (Or.inr ⟨[], name, ops, hts, by simp, hfault⟩)

/-- Reading stops on some line, with that line's failure. -/
theorem exists_parseLine_halt (lines : List String) (e : AsmError)
    (h : (parseLines lines).halt = some e) : ∃ line ∈ lines, (parseLine line).halt = some e := by
  induction lines with
  | nil => simp [parseLines, Parsed.empty] at h
  | cons l ls ih =>
    cases hl : (parseLine l).halt with
    | some e' =>
      have hlines : parseLines (l :: ls) = parseLine l := by
        simp [parseLines, Parsed.andThen, hl]
      rw [hlines, hl] at h
      exact ⟨l, List.mem_cons_self, hl.trans h⟩
    | none =>
      have hlines : (parseLines (l :: ls)).halt = (parseLines ls).halt := by
        simp [parseLines, Parsed.andThen, hl]
      obtain ⟨line, hline, hhalt⟩ := ih (hlines ▸ h)
      exact ⟨line, List.mem_cons_of_mem l hline, hhalt⟩

namespace Assembly

open Program

/-- Assembling lines fails with one of the assembler's own complaints, except for a
decimal literal too long to convert and for the two faults of an instruction's fields
that reading does not report: a known mnemonic with the wrong number of operands, and a
lone comma as the first of two operands. -/
theorem assembleLines_error_cases (lines : List String) (e : AsmError)
    (h : assembleLines lines = .error e) :
    e.isComplaint ∨ (∃ d, e = .literalTooLong d) ∨
      ∃ line ∈ lines, ∃ labels name ops,
        Text.fields (stripComment line) = labels ++ name :: ops ∧
        (∀ l ∈ labels, l.toList.head? = some ':') ∧ Instruction.UnreportedFault name ops e := by
  rw [assembleLines_eq, Layout.run_eq, Layout.empty_names] at h
  cases hrep : firstRepeat [] (labelDefs (parseLines lines).items) with
  | some l =>
    rw [hrep] at h
    cases h
    exact Or.inl rfl
  | none =>
    rw [hrep] at h
    cases hhalt : (parseLines lines).halt with
    | some e' =>
      rw [hhalt] at h
      cases h
      obtain ⟨line, hline, hl⟩ := exists_parseLine_halt lines e hhalt
      rcases parseFields_halt _ e (fun t ht => Text.ne_empty_of_mem_fields _ t ht) hl with
        hc | hlit | ⟨labels, name, ops, hfields, hlabels, hfault⟩
      · exact Or.inl hc
      · exact Or.inr (Or.inl hlit)
      · exact Or.inr (Or.inr ⟨line, hline, labels, name, ops, hfields, hlabels, hfault⟩)
    | none =>
      rw [hhalt] at h
      simp only at h
      rw [patch_extend_empty _ hrep] at h
      split at h
      · cases h
        exact Or.inl rfl
      · cases h

theorem assembleLines_error_cases_jsr_pair :
    assembleLines ["JSR A, B"] = .error (.operandCount .jsr) ∧
      ((AsmError.operandCount .jsr).isComplaint ∨ (∃ d, AsmError.operandCount .jsr = .literalTooLong d) ∨
        ∃ line ∈ ["JSR A, B"], ∃ labels name ops,
          Text.fields (stripComment line) = labels ++ name :: ops ∧
          (∀ l ∈ labels, l.toList.head? = some ':') ∧
          Instruction.UnreportedFault name ops (.operandCount .jsr)) :=
  ⟨rfl, assembleLines_error_cases _ _ rfl⟩

/-- Neither fault is reported as a complaint: JSR with two operands, and a lone comma as
the first operand of SET. -/
theorem assembleLines_unreported_faults :
    assembleLines ["JSR A, B"] = .error (.operandCount .jsr) ∧
      (AsmError.operandCount .jsr).isComplaint = false ∧
      assembleLines ["SET , B"] = .error .emptyToken ∧ AsmError.emptyToken.isComplaint = false :=
  ⟨rfl, rfl, rfl, rfl⟩

end Assembly

end Dcpu16Asm
