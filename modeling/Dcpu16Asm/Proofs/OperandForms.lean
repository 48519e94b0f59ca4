import Dcpu16Asm.Operand.Parse
import Dcpu16Asm.Text.CharClasses

/-!
The written forms of an operand. An operand is written as a register `R`, `[R]`, a special
name `C`, `[C]`, a literal `n`, `[n]`, `[n+R]`, a label name `lbl`, `[lbl]`, or `[w+R]` for
any word `w` that is no literal. `Reads` relates each form to the operand it stands for,
with the codes and next words of the machine's table. Reading a token without blanks
accepts exactly these forms and gives what `Reads` says; it fails with a complaint on
every other token, except that a decimal literal of more digits than can be converted
fails as such (`parse_accepts_forms`).

Two forms are read by the steps of reading rather than by the table. A special name in
brackets is the special operand itself, and a word before a register offset is read as a
label whatever it names, `[A+B]` and `[POP+A]` included. For these two `Reads` fixes what
does not depend on the register offset or the brackets: the code of `[C]`, and the one
next word, referring to `w`, of `[w+R]`.
-/
namespace Dcpu16Asm.Operand

/-! ### Classes of text -/

/-- One or more decimal digits, of any script. -/
def IsDecimalText (cs : List Char) : Prop := cs ≠ [] ∧ ∀ c ∈ cs, (Text.digitValue? c).isSome

/-- `0x` and one to four hexadecimal digits. -/
def IsHexText (cs : List Char) : Prop :=
  ∃ hs, cs = '0' :: 'x' :: hs ∧ 1 ≤ hs.length ∧ hs.length ≤ 4 ∧
    ∀ c ∈ hs, (Literal.hexDigitValue? c).isSome

def IsLiteralText (cs : List Char) : Prop := IsDecimalText cs ∨ IsHexText cs

/-- One or more word characters. -/
def IsWordText (cs : List Char) : Prop := cs ≠ [] ∧ ∀ c ∈ cs, Text.isWordChar c = true

/-- A label name: a word that names no register, no special operand and no literal. -/
def IsLabelName (cs : List Char) : Prop :=
  IsWordText cs ∧ ¬IsLiteralText cs ∧ Special.ofName? cs = none ∧
    ∀ c, cs = [c] → Register.ofChar? c = none

/-- The number a literal stands for: a decimal literal of at most `decimalDigitLimit`
digits, or a hexadecimal one. -/
inductive Numeral : List Char → Nat → Prop
  | decimal {cs : List Char} : IsDecimalText cs → cs.length ≤ AsmError.decimalDigitLimit →
      Numeral cs (Literal.digitsValue 10 (cs.filterMap Text.digitValue?))
  | hex {hs : List Char} : IsHexText ('0' :: 'x' :: hs) →
      Numeral ('0' :: 'x' :: hs) (Literal.digitsValue 16 (hs.filterMap Literal.hexDigitValue?))

/-- The operand forms, each with the operand it stands for. -/
inductive Reads : List Char → Operand → Prop
  | reg {c : Char} {r : Register} : Register.ofChar? c = some r → Reads [c] (.reg r)
  | deref {c : Char} {r : Register} : Register.ofChar? c = some r → Reads ['[', c, ']'] (.deref r)
  | special {cs : List Char} {s : Special} : Special.ofName? cs = some s →
      Reads cs (.special s false)
  /-- In brackets a special operand keeps its code; its next word is left open here. -/
  | specialBracketed {cs : List Char} {s : Special} (padded : Bool) :
      Special.ofName? cs = some s → Reads ('[' :: cs ++ [']']) (.special s padded)
  | inline {cs : List Char} {n : Nat} (h : n < 32) : Numeral cs n → Reads cs (.inline ⟨n, h⟩)
  | next {cs : List Char} {n : Nat} : Numeral cs n → 32 ≤ n → Reads cs (.next (.num n))
  | derefNext {cs : List Char} {n : Nat} : Numeral cs n →
      Reads ('[' :: cs ++ [']']) (.derefNext (.num n))
  | derefOffset {cs : List Char} {n : Nat} {c : Char} {r : Register} : Numeral cs n →
      Register.ofChar? c = some r → Reads ('[' :: cs ++ ['+', c, ']']) (.derefOffset (.num n) r)
  | label {w : List Char} : IsLabelName w → Reads w (.next (.ref (String.ofList w)))
  | derefLabel {w : List Char} : IsLabelName w →
      Reads ('[' :: w ++ [']']) (.derefNext (.ref (String.ofList w)))
  /-- A word before a register offset refers to the word as a label, through one next
  word; the code is left open here. -/
  | labelOffset {w : List Char} {c : Char} {r : Register} {o : Operand} : IsWordText w →
      ¬IsLiteralText w → Register.ofChar? c = some r → o.cells = [⟨0, some (String.ofList w)⟩] →
      Reads ('[' :: w ++ ['+', c, ']']) o

/-- A decimal literal of more digits than can be converted: alone, in brackets, or before
a register offset. -/
def IsLongDecimalForm (cs : List Char) : Prop :=
  ∃ ds, IsDecimalText ds ∧ AsmError.decimalDigitLimit < ds.length ∧
    (cs = ds ∨ cs = '[' :: ds ++ [']'] ∨
      ∃ c r, Register.ofChar? c = some r ∧ cs = '[' :: ds ++ ['+', c, ']'])

/-! ### Names of registers and special operands -/

theorem Register.mem_letters_of_ofChar? {c : Char} {r : Register}
    (h : Register.ofChar? c = some r) : c ∈ ['A', 'B', 'C', 'X', 'Y', 'Z', 'I', 'J'] := by
  unfold Register.ofChar? at h
  split at h <;> simp_all

theorem Special.mem_names_of_ofName? {cs : List Char} {s : Special}
    (h : Special.ofName? cs = some s) :
    cs ∈ [['P', 'O', 'P'], ['P', 'E', 'E', 'K'], ['P', 'U', 'S', 'H'], ['S', 'P'], ['P', 'C'],
      ['O']] := by
  unfold Special.ofName? at h
  split at h <;> simp_all

/-- A text that begins with a letter other than a digit is no literal. -/
theorem not_isLiteralText_cons {c : Char} {cs : List Char} (hdigit : Text.digitValue? c = none)
    (hzero : c ≠ '0') : ¬IsLiteralText (c :: cs) := by
  rintro (⟨-, hdec⟩ | ⟨hs, hcs, -⟩)
  · simpa [hdigit] using hdec c List.mem_cons_self
  · exact hzero (List.cons.inj hcs).1

theorem Register.not_isLiteralText {c : Char} {r : Register} (h : Register.ofChar? c = some r) :
    ¬IsLiteralText [c] := by
  have hc := Register.mem_letters_of_ofChar? h
  simp only [List.mem_cons, List.not_mem_nil, or_false] at hc
  rcases hc with rfl | rfl | rfl | rfl | rfl | rfl | rfl | rfl <;>
    exact not_isLiteralText_cons (by decide) (by decide)

theorem Special.not_isLiteralText {cs : List Char} {s : Special}
    (h : Special.ofName? cs = some s) : ¬IsLiteralText cs := by
  have hcs := Special.mem_names_of_ofName? h
  simp only [List.mem_cons, List.not_mem_nil, or_false] at hcs
  rcases hcs with rfl | rfl | rfl | rfl | rfl | rfl <;>
    exact not_isLiteralText_cons (by decide) (by decide)

theorem Special.ofName?_eq_none_of_isLiteralText {cs : List Char} (h : IsLiteralText cs) :
    Special.ofName? cs = none := by
  cases hs : Special.ofName? cs with
  | none => rfl
  | some s => exact absurd h (Special.not_isLiteralText hs)

theorem Special.ofName?_eq_none_of_plus_mem {cs : List Char} (h : '+' ∈ cs) :
    Special.ofName? cs = none := by
  cases hs : Special.ofName? cs with
  | none => rfl
  | some s =>
    have hcs := Special.mem_names_of_ofName? hs
    simp only [List.mem_cons, List.not_mem_nil, or_false] at hcs
    rcases hcs with rfl | rfl | rfl | rfl | rfl | rfl <;> simp at h

theorem map_ofChar?_eq_single_iff {cs : List Char} {r : Register} :
    cs.map Register.ofChar? = [some r] ↔ ∃ c, cs = [c] ∧ Register.ofChar? c = some r := by
  match cs with
  | [] => simp
  | [c] => simp
  | _ :: _ :: _ => simp

/-- A literal is no register name. -/
theorem map_ofChar?_ne_of_isLiteralText {cs : List Char} (h : IsLiteralText cs) (r : Register) :
    cs.map Register.ofChar? ≠ [some r] := by
  intro hmap
  obtain ⟨c, rfl, hc⟩ := map_ofChar?_eq_single_iff.mp hmap
  exact Register.not_isLiteralText hc h

/-! ### Brackets and register offsets -/

theorem unbracket_bracketed (inner : List Char) :
    unbracket ('[' :: inner ++ [']']) = (true, inner) := by
  simp [unbracket]

theorem unbracket_of_head {cs : List Char} (h : cs.head? ≠ some '[') : unbracket cs = (false, cs) := by
  unfold unbracket
  split
  · simp at h
  · rfl

/-- What bracket removal leaves: the inside of brackets, or the whole text. -/
theorem eq_of_unbracket {cs inner : List Char} {indirect : Bool}
    (h : unbracket cs = (indirect, inner)) :
    cs = if indirect then '[' :: inner ++ [']'] else inner := by
  unfold unbracket at h
  split at h
  · rename_i rest
    split at h
    · rename_i hlast
      simp only [Prod.mk.injEq] at h
      obtain ⟨rfl, rfl⟩ := h
      obtain ⟨ys, rfl⟩ := List.getLast?_eq_some_iff.mp hlast
      simp
    · simp only [Prod.mk.injEq] at h
      obtain ⟨rfl, rfl⟩ := h
      rfl
  · simp only [Prod.mk.injEq] at h
    obtain ⟨rfl, rfl⟩ := h
    rfl

/-- What is not in a text is not in what bracket removal leaves of it. -/
theorem not_mem_of_unbracket {cs inner : List Char} {indirect : Bool} {x : Char}
    (hu : unbracket cs = (indirect, inner)) (h : x ∉ cs) : x ∉ inner := by
  intro hmem
  apply h
  rw [eq_of_unbracket hu]
  cases indirect <;> simp [hmem]

theorem splitOffset_append (body : List Char) (c : Char) :
    splitOffset (body ++ ['+', c]) = some (body, c) := by
  have hrev : (body ++ ['+', c]).reverse = c :: '+' :: body.reverse := by simp
  simp [splitOffset, hrev]

theorem eq_of_splitOffset {cs body : List Char} {c : Char} (h : splitOffset cs = some (body, c)) :
    cs = body ++ ['+', c] := by
  unfold splitOffset at h
  split at h
  · rename_i c' rest hrev
    simp only [Option.some.injEq, Prod.mk.injEq] at h
    obtain ⟨rfl, rfl⟩ := h
    rw [← List.reverse_reverse cs, hrev]
    simp
  · cases h

theorem splitOffset_eq_none {cs : List Char} (h : '+' ∉ cs) : splitOffset cs = none := by
  cases hs : splitOffset cs with
  | none => rfl
  | some q =>
    obtain ⟨body, c⟩ := q
    rw [eq_of_splitOffset hs] at h
    simp at h

/-! ### Literals and names in text without a line feed -/

theorem mapM_cons_some {α : Type} {f : Char → Option α} {c : Char} {cs : List Char} {a : α}
    (hc : f c = some a) : (c :: cs).mapM f = (cs.mapM f).map (a :: ·) := by
  rw [List.mapM_cons, hc]
  cases cs.mapM f <;> rfl

theorem mapM_cons_none {α : Type} {f : Char → Option α} {c : Char} {cs : List Char}
    (hc : f c = none) : (c :: cs).mapM f = none := by
  rw [List.mapM_cons, hc]
  rfl

/-- Reading every character succeeds exactly when each one reads, and gives their values. -/
theorem mapM_eq_some_iff {α : Type} {f : Char → Option α} {cs : List Char} {xs : List α} :
    cs.mapM f = some xs ↔ (∀ c ∈ cs, (f c).isSome) ∧ xs = cs.filterMap f := by
  induction cs generalizing xs with
  | nil =>
    rw [List.mapM_nil]
    constructor
    · intro h
      exact ⟨by simp, (Option.some.inj h).symm⟩
    · rintro ⟨-, rfl⟩
      rfl
  | cons c cs ih =>
    cases hc : f c with
    | none => simp [mapM_cons_none hc, hc]
    | some a =>
      rw [mapM_cons_some hc, Option.map_eq_some_iff, List.filterMap_cons_some hc]
      constructor
      · rintro ⟨ys, hys, rfl⟩
        obtain ⟨hall, rfl⟩ := ih.mp hys
        exact ⟨List.forall_mem_cons.mpr ⟨by simp [hc], hall⟩, rfl⟩
      · rintro ⟨hall, rfl⟩
        exact ⟨_, ih.mpr ⟨fun d hd => hall d (List.mem_cons_of_mem c hd), rfl⟩, rfl⟩

theorem length_filterMap_of_isSome {α : Type} {f : Char → Option α} {cs : List Char}
    (h : ∀ c ∈ cs, (f c).isSome) : (cs.filterMap f).length = cs.length := by
  induction cs with
  | nil => rfl
  | cons c cs ih =>
    obtain ⟨a, ha⟩ := Option.isSome_iff_exists.mp (h c List.mem_cons_self)
    rw [List.filterMap_cons_some ha, List.length_cons, List.length_cons,
      ih fun d hd => h d (List.mem_cons_of_mem c hd)]

theorem dropFinalLineFeed_of_not_mem {cs : List Char} (h : '\n' ∉ cs) :
    Literal.dropFinalLineFeed cs = cs := by
  unfold Literal.dropFinalLineFeed
  rw [if_neg]
  intro hlast
  obtain ⟨ys, rfl⟩ := List.getLast?_eq_some_iff.mp hlast
  simp at h

section NoLineFeed

variable {cs : List Char} (hlf : '\n' ∉ cs)
include hlf

theorem decimalDigits?_eq_some_iff {ds : List Nat} :
    Literal.decimalDigits? cs = some ds ↔ IsDecimalText cs ∧ ds = cs.filterMap Text.digitValue? := by
  unfold Literal.decimalDigits?
  rw [dropFinalLineFeed_of_not_mem hlf]
  cases cs with
  | nil => simp [IsDecimalText]
  | cons c cs =>
    simp only
    rw [mapM_eq_some_iff]
    simp [IsDecimalText]

theorem decimalDigits?_eq_none_iff : Literal.decimalDigits? cs = none ↔ ¬IsDecimalText cs := by
  rw [Option.eq_none_iff_forall_ne_some]
  simp only [ne_eq, decimalDigits?_eq_some_iff hlf, not_and]
  exact ⟨fun h hdec => h _ hdec rfl, fun h ds hdec => absurd hdec h⟩

theorem hex?_eq_some_iff {n : Nat} :
    Literal.hex? cs = some n ↔ ∃ hs, cs = '0' :: 'x' :: hs ∧ IsHexText cs ∧
      n = Literal.digitsValue 16 (hs.filterMap Literal.hexDigitValue?) := by
  unfold Literal.hex?
  rw [dropFinalLineFeed_of_not_mem hlf]
  constructor
  · intro h
    split at h
    · rename_i hs
      split at h
      · rename_i hlen
        obtain ⟨ds, hds, rfl⟩ := Option.map_eq_some_iff.mp h
        obtain ⟨hall, rfl⟩ := mapM_eq_some_iff.mp hds
        exact ⟨hs, rfl, ⟨hs, rfl, hlen.1, hlen.2, hall⟩, rfl⟩
      · cases h
    · cases h
  · rintro ⟨hs, rfl, ⟨hs', hcs, hlo, hhi, hall⟩, rfl⟩
    simp only [List.cons.injEq, true_and] at hcs
    subst hcs
    simp [hlo, hhi, mapM_eq_some_iff.mpr ⟨hall, rfl⟩]

theorem hex?_eq_none_iff : Literal.hex? cs = none ↔ ¬IsHexText cs := by
  rw [Option.eq_none_iff_forall_ne_some]
  simp only [ne_eq, hex?_eq_some_iff hlf, not_exists, not_and]
  constructor
  · rintro h ⟨hs, rfl, hhex⟩
    exact h _ hs rfl ⟨hs, rfl, hhex⟩ rfl
  · intro h n hs hcs hhex
    exact absurd hhex h

theorem isName_iff : Literal.isName cs = true ↔ IsWordText cs := by
  unfold Literal.isName
  rw [dropFinalLineFeed_of_not_mem hlf]
  cases cs with
  | nil => simp [IsWordText]
  | cons c cs => simp [IsWordText, List.all_eq_true]

/-! ### The text after brackets and offset -/

variable {indirect : Bool} {offset : Option Register}

theorem decimalDigits?_eq_none_of_isHexText (h : IsHexText cs) :
    Literal.decimalDigits? cs = none := by
  rw [decimalDigits?_eq_none_iff hlf]
  obtain ⟨hs, rfl, -⟩ := h
  rintro ⟨-, hall⟩
  exact absurd (hall 'x' (by simp)) (by decide)

theorem ofBody_numeral {n : Nat} (h : Numeral cs n) :
    ofBody indirect offset cs = .ok (ofNumber indirect offset n) := by
  cases h with
  | decimal hdec hlen =>
    have hds := (decimalDigits?_eq_some_iff hlf).mpr ⟨hdec, rfl⟩
    have hfits : ¬AsmError.decimalDigitLimit < (cs.filterMap Text.digitValue?).length := by
      rw [length_filterMap_of_isSome hdec.2]
      omega
    simp [ofBody, hds, hfits]
  | hex hhex =>
    have hhex? := (hex?_eq_some_iff hlf).mpr ⟨_, rfl, hhex, rfl⟩
    simp [ofBody, decimalDigits?_eq_none_of_isHexText hlf hhex, hhex?]

/-- A word that is no literal refers to itself as a label. -/
theorem ofBody_word (hw : IsWordText cs) (hlit : ¬IsLiteralText cs) :
    ofBody indirect offset cs =
      .ok (if indirect then .derefNext (.ref (String.ofList cs)) else .next (.ref (String.ofList cs))) := by
  have hdec := (decimalDigits?_eq_none_iff hlf).mpr fun h => hlit (Or.inl h)
  have hhex := (hex?_eq_none_iff hlf).mpr fun h => hlit (Or.inr h)
  simp [ofBody, hdec, hhex, (isName_iff hlf).mpr hw]

theorem ofBody_long (hdec : IsDecimalText cs) (hlong : AsmError.decimalDigitLimit < cs.length) :
    ofBody indirect offset cs = .error (.literalTooLong cs.length) := by
  have hds := (decimalDigits?_eq_some_iff hlf).mpr ⟨hdec, rfl⟩
  rw [← length_filterMap_of_isSome hdec.2] at hlong ⊢
  simp [ofBody, hds, hlong]

theorem ofBody_other (hw : ¬IsWordText cs) (hlit : ¬IsLiteralText cs) :
    ofBody indirect offset cs = .error (.notAnOperand (String.ofList cs)) := by
  have hdec := (decimalDigits?_eq_none_iff hlf).mpr fun h => hlit (Or.inl h)
  have hhex := (hex?_eq_none_iff hlf).mpr fun h => hlit (Or.inr h)
  have hname : Literal.isName cs = false := by
    cases h : Literal.isName cs with
    | false => rfl
    | true => exact absurd ((isName_iff hlf).mp h) hw
  simp [ofBody, hdec, hhex, hname]

/-- The four things the text after brackets and offset can be: a numeral, a word that is
no literal and names a label, a decimal literal too long to convert, or none of these. -/
theorem ofBody_cases :
    (∃ n, Numeral cs n ∧ ofBody indirect offset cs = .ok (ofNumber indirect offset n)) ∨
    (IsWordText cs ∧ ¬IsLiteralText cs ∧ ofBody indirect offset cs =
      .ok (if indirect then .derefNext (.ref (String.ofList cs)) else .next (.ref (String.ofList cs)))) ∨
    (IsDecimalText cs ∧ AsmError.decimalDigitLimit < cs.length ∧
      ofBody indirect offset cs = .error (.literalTooLong cs.length)) ∨
    (¬IsWordText cs ∧ ¬IsLiteralText cs ∧
      ofBody indirect offset cs = .error (.notAnOperand (String.ofList cs))) := by
  by_cases hdec : IsDecimalText cs
  · by_cases hlong : AsmError.decimalDigitLimit < cs.length
    · exact Or.inr (Or.inr (Or.inl ⟨hdec, hlong, ofBody_long hlf hdec hlong⟩))
    · have hnum : Numeral cs _ := .decimal hdec (by omega)
      exact Or.inl ⟨_, hnum, ofBody_numeral hlf hnum⟩
  · by_cases hhex : IsHexText cs
    · have ⟨hs, hcs, _⟩ := hhex
      subst hcs
      have hnum : Numeral _ _ := .hex hhex
      exact Or.inl ⟨_, hnum, ofBody_numeral hlf hnum⟩
    · have hlit : ¬IsLiteralText cs := fun h => h.elim hdec hhex
      by_cases hw : IsWordText cs
      · exact Or.inr (Or.inl ⟨hw, hlit, ofBody_word hlf hw hlit⟩)
      · exact Or.inr (Or.inr (Or.inr ⟨hw, hlit, ofBody_other hlf hw hlit⟩))

/-- What the text after brackets and offset can be read as: a numeral, or a word that is
no literal, read as a label. -/
theorem ofBody_eq_ok {o : Operand} (h : ofBody indirect offset cs = .ok o) :
    (∃ n, Numeral cs n ∧ o = ofNumber indirect offset n) ∨
      (IsWordText cs ∧ ¬IsLiteralText cs ∧
        o = if indirect then .derefNext (.ref (String.ofList cs)) else .next (.ref (String.ofList cs))) := by
  rcases @ofBody_cases cs hlf indirect offset with
    ⟨n, hn, hbody⟩ | ⟨hw, hlit, hbody⟩ | ⟨_, _, hbody⟩ | ⟨_, _, hbody⟩ <;> rw [hbody] at h
  · cases h
    exact Or.inl ⟨n, hn, rfl⟩
  · cases h
    exact Or.inr ⟨hw, hlit, rfl⟩
  · cases h
  · cases h

/-- The text after brackets and offset fails to read with a complaint, or as a decimal
literal of more digits than can be converted. -/
theorem ofBody_error_cases {e : AsmError} (h : ofBody indirect offset cs = .error e) :
    e.isComplaint ∨ (IsDecimalText cs ∧ AsmError.decimalDigitLimit < cs.length) := by
  rcases @ofBody_cases cs hlf indirect offset with
    ⟨_, _, hbody⟩ | ⟨_, _, hbody⟩ | ⟨hdec, hlong, hbody⟩ | ⟨_, _, hbody⟩ <;> rw [hbody] at h
  · cases h
  · cases h
  · exact Or.inr ⟨hdec, hlong⟩
  · cases h
    exact Or.inl rfl

end NoLineFeed

/-! ### The paths of reading -/

theorem isEmpty_ofList {cs : List Char} (hne : cs ≠ []) : (String.ofList cs).isEmpty = false := by
  cases h : (String.ofList cs).isEmpty with
  | false => rfl
  | true => exact absurd (String.ofList_eq_empty_iff.mp (String.isEmpty_iff.mp h)) hne

/-- Text that is no special name, no register and not in brackets is read by its body. -/
theorem parse_plain {cs : List Char} (hne : cs ≠ []) (hhead : cs.head? ≠ some '[')
    (hname : Special.ofName? cs = none) (hreg : ∀ r, cs.map Register.ofChar? ≠ [some r]) :
    parse (String.ofList cs) = ofBody false none cs := by
  unfold parse
  revert hreg
  simp only [isEmpty_ofList hne, String.toList_ofList, unbracket_of_head hhead, hname,
    Bool.false_eq_true, ↓reduceIte]
  intro hreg
  split
  · rename_i r hr
    exact absurd hr (hreg r)
  · rfl

/-- Text in brackets without a register offset is read by its inside, indirectly. -/
theorem parse_bracketed {cs : List Char} (hname : Special.ofName? cs = none)
    (hreg : ∀ r, cs.map Register.ofChar? ≠ [some r]) (hplus : '+' ∉ cs) :
    parse (String.ofList ('[' :: cs ++ [']'])) = ofBody true none cs := by
  have hempty : (String.ofList ('[' :: cs ++ [']'])).isEmpty = false := isEmpty_ofList (by simp)
  unfold parse
  revert hreg
  simp only [hempty, String.toList_ofList, unbracket_bracketed, hname, Bool.false_eq_true,
    ↓reduceIte, splitOffset_eq_none hplus]
  intro hreg
  split
  · rename_i r hr
    exact absurd hr (hreg r)
  · rfl

/-- Text in brackets with a register offset is read by the text before the offset. -/
theorem parse_offset (cs : List Char) {c : Char} {r : Register} (hr : Register.ofChar? c = some r) :
    parse (String.ofList ('[' :: cs ++ ['+', c, ']'])) = ofBody true (some r) cs := by
  have hinner : '[' :: cs ++ ['+', c, ']'] = '[' :: (cs ++ ['+', c]) ++ [']'] := by simp
  have hempty : (String.ofList ('[' :: (cs ++ ['+', c]) ++ [']'])).isEmpty = false :=
    isEmpty_ofList (by simp)
  have hname : Special.ofName? (cs ++ ['+', c]) = none :=
    Special.ofName?_eq_none_of_plus_mem (by simp)
  have hreg : ∀ r', (cs ++ ['+', c]).map Register.ofChar? ≠ [some r'] := by
    intro r' h
    have := congrArg List.length h
    simp at this
  unfold parse
  revert hreg
  simp only [hinner, hempty, String.toList_ofList, unbracket_bracketed, hname, Bool.false_eq_true,
    ↓reduceIte, splitOffset_append, hr]
  intro hreg
  split
  · rename_i r' hr'
    exact absurd hr' (hreg r')
  · rfl

theorem parse_special {cs : List Char} {s : Special} (hs : Special.ofName? cs = some s) :
    parse (String.ofList cs) = .ok (.special s false) := by
  have hcs := Special.mem_names_of_ofName? hs
  simp only [List.mem_cons, List.not_mem_nil, or_false] at hcs
  rcases hcs with rfl | rfl | rfl | rfl | rfl | rfl <;> cases hs <;> rfl

theorem parse_special_bracketed {cs : List Char} {s : Special} (hs : Special.ofName? cs = some s) :
    parse (String.ofList ('[' :: cs ++ [']'])) = .ok (.special s true) := by
  have hempty : (String.ofList ('[' :: cs ++ [']'])).isEmpty = false := isEmpty_ofList (by simp)
  unfold parse
  simp only [hempty, String.toList_ofList, unbracket_bracketed, hs, Bool.false_eq_true, ↓reduceIte]

theorem parse_register {c : Char} {r : Register} (hr : Register.ofChar? c = some r) :
    parse (String.ofList [c]) = .ok (.reg r) := by
  have hc := Register.mem_letters_of_ofChar? hr
  simp only [List.mem_cons, List.not_mem_nil, or_false] at hc
  rcases hc with rfl | rfl | rfl | rfl | rfl | rfl | rfl | rfl <;> cases hr <;> rfl

theorem parse_register_bracketed {c : Char} {r : Register} (hr : Register.ofChar? c = some r) :
    parse (String.ofList ['[', c, ']']) = .ok (.deref r) := by
  have hc := Register.mem_letters_of_ofChar? hr
  simp only [List.mem_cons, List.not_mem_nil, or_false] at hc
  rcases hc with rfl | rfl | rfl | rfl | rfl | rfl | rfl | rfl <;> cases hr <;> rfl

/-! ### Facts about the classes of text -/

theorem IsLiteralText.ne_nil {cs : List Char} (h : IsLiteralText cs) : cs ≠ [] := by
  rcases h with ⟨hne, -⟩ | ⟨hs, rfl, -⟩
  · exact hne
  · simp

/-- A literal holds neither a bracket nor a plus sign. -/
theorem IsLiteralText.not_mem {cs : List Char} (h : IsLiteralText cs) :
    '[' ∉ cs ∧ '+' ∉ cs := by
  rcases h with ⟨-, hall⟩ | ⟨hs, rfl, -, -, hall⟩
  · exact ⟨fun hm => absurd (hall _ hm) (by decide), fun hm => absurd (hall _ hm) (by decide)⟩
  · simp only [List.mem_cons, not_or]
    exact ⟨⟨by decide, by decide, fun hm => absurd (hall _ hm) (by decide)⟩,
      ⟨by decide, by decide, fun hm => absurd (hall _ hm) (by decide)⟩⟩

-- the table of word characters is long enough that deciding one character needs more depth
set_option maxRecDepth 4000 in
theorem isWordChar_bracket : Text.isWordChar '[' = false := by decide

set_option maxRecDepth 4000 in
theorem isWordChar_plus : Text.isWordChar '+' = false := by decide

theorem IsWordText.not_mem {cs : List Char} (h : IsWordText cs) : '[' ∉ cs ∧ '+' ∉ cs :=
  ⟨fun hm => by simpa [isWordChar_bracket] using h.2 _ hm,
    fun hm => by simpa [isWordChar_plus] using h.2 _ hm⟩

theorem head?_ne_of_not_mem {cs : List Char} (h : '[' ∉ cs) : cs.head? ≠ some '[' := by
  intro hhead
  exact h (List.mem_of_mem_head? hhead)

theorem Numeral.isLiteralText {cs : List Char} {n : Nat} (h : Numeral cs n) : IsLiteralText cs := by
  cases h with
  | decimal hdec _ => exact Or.inl hdec
  | hex hhex => exact Or.inr hhex

theorem not_mem_of_sublist {cs : List Char} {x : Char} (h : x ∉ '[' :: cs ++ [']']) : x ∉ cs := by
  intro hx
  exact h (by simp [hx])

/-- A numeral not in brackets: held in the code below 32, else in a next word. -/
theorem reads_ofNumber_plain {cs : List Char} {n : Nat} (h : Numeral cs n) :
    Reads cs (ofNumber false none n) := by
  by_cases hn : n < 32
  · simpa [ofNumber, hn] using Reads.inline hn h
  · simpa [ofNumber, hn] using Reads.next h (by omega)

theorem ofNumber_indirect (n : Nat) : ofNumber true none n = .derefNext (.num n) := by
  simp [ofNumber]

theorem ofNumber_offset (n : Nat) (r : Register) : ofNumber true (some r) n = .derefOffset (.num n) r := by
  simp [ofNumber]

/-! ### Reading the forms -/

/-- A plain literal is read by its body, which it is. -/
theorem parse_literal {cs : List Char} (hlit : IsLiteralText cs) :
    parse (String.ofList cs) = ofBody false none cs :=
  parse_plain hlit.ne_nil (head?_ne_of_not_mem hlit.not_mem.1)
    (Special.ofName?_eq_none_of_isLiteralText hlit) (map_ofChar?_ne_of_isLiteralText hlit)

/-- A literal in brackets is read by its body, indirectly. -/
theorem parse_literal_bracketed {cs : List Char} (hlit : IsLiteralText cs) :
    parse (String.ofList ('[' :: cs ++ [']'])) = ofBody true none cs :=
  parse_bracketed (Special.ofName?_eq_none_of_isLiteralText hlit)
    (map_ofChar?_ne_of_isLiteralText hlit) hlit.not_mem.2

theorem IsLabelName.map_ofChar?_ne {w : List Char} (hw : IsLabelName w) (r : Register) :
    w.map Register.ofChar? ≠ [some r] := by
  intro hmap
  obtain ⟨c, rfl, hc⟩ := map_ofChar?_eq_single_iff.mp hmap
  simp [hw.2.2.2 c rfl] at hc

/-- A label name is read as a reference to the label, through a next word. -/
theorem parse_label {w : List Char} (hlf : '\n' ∉ w) (hw : IsLabelName w) :
    parse (String.ofList w) = .ok (.next (.ref (String.ofList w))) :=
  (parse_plain hw.1.1 (head?_ne_of_not_mem hw.1.not_mem.1) hw.2.2.1 hw.map_ofChar?_ne).trans
    (ofBody_word hlf hw.1 hw.2.1)

/-- A label name in brackets is read as the word at the label's address. -/
theorem parse_label_bracketed {w : List Char} (hlf : '\n' ∉ w) (hw : IsLabelName w) :
    parse (String.ofList ('[' :: w ++ [']'])) = .ok (.derefNext (.ref (String.ofList w))) :=
  (parse_bracketed hw.2.2.1 hw.map_ofChar?_ne hw.1.not_mem.2).trans (ofBody_word hlf hw.1 hw.2.1)

/-- Every form is read, as what it stands for. -/
theorem parse_of_reads {cs : List Char} {o : Operand} (hlf : '\n' ∉ cs) (h : Reads cs o) :
    ∃ o', parse (String.ofList cs) = .ok o' ∧ Reads cs o' := by
  cases h with
  | reg hr => exact ⟨_, parse_register hr, .reg hr⟩
  | deref hr => exact ⟨_, parse_register_bracketed hr, .deref hr⟩
  | special hs => exact ⟨_, parse_special hs, .special hs⟩
  | specialBracketed padded hs => exact ⟨_, parse_special_bracketed hs, .specialBracketed true hs⟩
  | inline hn hnum =>
    exact ⟨_, (parse_literal hnum.isLiteralText).trans (ofBody_numeral hlf hnum),
      reads_ofNumber_plain hnum⟩
  | next hnum h32 =>
    exact ⟨_, (parse_literal hnum.isLiteralText).trans (ofBody_numeral hlf hnum),
      reads_ofNumber_plain hnum⟩
  | derefNext hnum =>
    refine ⟨_, (parse_literal_bracketed hnum.isLiteralText).trans
      (ofBody_numeral (not_mem_of_sublist hlf) hnum), ?_⟩
    rw [ofNumber_indirect]
    exact .derefNext hnum
  | derefOffset hnum hr =>
    refine ⟨_, (parse_offset _ hr).trans
      (ofBody_numeral (fun h => hlf (by simp [h])) hnum), ?_⟩
    rw [ofNumber_offset]
    exact .derefOffset hnum hr
  | label hw => exact ⟨_, parse_label hlf hw, .label hw⟩
  | derefLabel hw => exact ⟨_, parse_label_bracketed (not_mem_of_sublist hlf) hw, .derefLabel hw⟩
  | labelOffset hw hlit hr hcells =>
    refine ⟨_, (parse_offset _ hr).trans (ofBody_word (fun h => hlf (by simp [h])) hw hlit), ?_⟩
    exact .labelOffset hw hlit hr rfl

theorem parse_nil : parse (String.ofList []) = .error .emptyToken := rfl

/-- The four paths of reading a nonempty text, after its brackets are removed: a special
name, a register, a register offset in brackets, and the body read by `ofBody`. -/
theorem parse_paths {cs inner : List Char} {indirect : Bool} (hne : cs ≠ [])
    (hu : unbracket cs = (indirect, inner)) :
    (∃ s, Special.ofName? inner = some s ∧
      parse (String.ofList cs) = .ok (.special s indirect)) ∨
    (∃ c r, inner = [c] ∧ Register.ofChar? c = some r ∧
      parse (String.ofList cs) = .ok (if indirect then .deref r else .reg r)) ∨
    (indirect = true ∧ ∃ body c, inner = body ++ ['+', c] ∧
      ((∃ r, Register.ofChar? c = some r ∧ parse (String.ofList cs) = ofBody true (some r) body) ∨
        (Register.ofChar? c = none ∧ parse (String.ofList cs) = .error (.badOffset c)))) ∨
    (Special.ofName? inner = none ∧ (∀ c, inner = [c] → Register.ofChar? c = none) ∧
      parse (String.ofList cs) = ofBody indirect none inner) := by
  generalize hp : parse (String.ofList cs) = p
  unfold parse at hp
  simp only [isEmpty_ofList hne, Bool.false_eq_true, ↓reduceIte, String.toList_ofList, hu] at hp
  split at hp
  · rename_i s hs
    exact Or.inl ⟨s, hs, hp.symm⟩
  · rename_i hs
    split at hp
    · rename_i r hr
      obtain ⟨c, rfl, hc⟩ := map_ofChar?_eq_single_iff.mp hr
      exact Or.inr (Or.inl ⟨c, r, rfl, hc, hp.symm⟩)
    · rename_i hreg
      split at hp
      · rename_i body c hsplit
        cases indirect with
        | false => cases hsplit
        | true =>
          simp only [↓reduceIte] at hsplit
          refine Or.inr (Or.inr (Or.inl ⟨rfl, body, c, eq_of_splitOffset hsplit, ?_⟩))
          split at hp
          · rename_i r hr
            exact Or.inl ⟨r, hr, hp.symm⟩
          · rename_i hr
            exact Or.inr ⟨hr, hp.symm⟩
      · have hnoreg : ∀ c, inner = [c] → Register.ofChar? c = none := by
          rintro c rfl
          cases hc : Register.ofChar? c with
          | none => rfl
          | some r => exact absurd (by simp [hc]) (hreg r)
        exact Or.inr (Or.inr (Or.inr ⟨hs, hnoreg, hp.symm⟩))

/-- Whatever is read is one of the forms, and reads as what the form stands for. -/
theorem reads_of_parse {cs : List Char} {o : Operand} (hlf : '\n' ∉ cs)
    (h : parse (String.ofList cs) = .ok o) : Reads cs o := by
  have hne : cs ≠ [] := by
    rintro rfl
    rw [parse_nil] at h
    cases h
  rcases hu : unbracket cs with ⟨indirect, inner⟩
  have hcs := eq_of_unbracket hu
  have hlf_inner := not_mem_of_unbracket hu hlf
  rcases parse_paths hne hu with ⟨s, hs, hp⟩ | ⟨c, r, rfl, hr, hp⟩ |
    ⟨rfl, body, c, rfl, ⟨r, hr, hp⟩ | ⟨-, hp⟩⟩ | ⟨hs, hnoreg, hp⟩ <;> rw [hp] at h
  · cases h
    cases indirect <;> simp only [Bool.false_eq_true, ↓reduceIte] at hcs <;> subst hcs
    · exact .special hs
    · exact .specialBracketed true hs
  · cases h
    cases indirect <;> simp only [Bool.false_eq_true, ↓reduceIte] at hcs ⊢ <;> subst hcs
    · exact .reg hr
    · exact .deref hr
  · simp only [↓reduceIte, List.append_assoc, List.cons_append, List.nil_append] at hcs
    subst hcs
    rcases ofBody_eq_ok (fun hmem => hlf (by simp [hmem])) h with ⟨n, hn, rfl⟩ | ⟨hw, hlit, rfl⟩
    · rw [ofNumber_offset]
      exact .derefOffset hn hr
    · exact .labelOffset hw hlit hr rfl
  · cases h
  · rcases ofBody_eq_ok hlf_inner h with ⟨n, hn, rfl⟩ | ⟨hw, hlit, rfl⟩
    · cases indirect <;> simp only [Bool.false_eq_true, ↓reduceIte] at hcs <;> subst hcs
      · exact reads_ofNumber_plain hn
      · rw [ofNumber_indirect]
        exact .derefNext hn
    · cases indirect <;> simp only [Bool.false_eq_true, ↓reduceIte] at hcs ⊢ <;> subst hcs
      · exact .label ⟨hw, hlit, hs, hnoreg⟩
      · exact .derefLabel ⟨hw, hlit, hs, hnoreg⟩

/-- Reading fails with a complaint, or on a decimal literal too long to convert. -/
theorem parse_error_cases {cs : List Char} {e : AsmError} (hlf : '\n' ∉ cs) (hne : cs ≠ [])
    (h : parse (String.ofList cs) = .error e) : e.isComplaint ∨ IsLongDecimalForm cs := by
  rcases hu : unbracket cs with ⟨indirect, inner⟩
  have hcs := eq_of_unbracket hu
  have hlf_inner := not_mem_of_unbracket hu hlf
  rcases parse_paths hne hu with ⟨s, hs, hp⟩ | ⟨c, r, rfl, hr, hp⟩ |
    ⟨rfl, body, c, rfl, ⟨r, hr, hp⟩ | ⟨-, hp⟩⟩ | ⟨-, -, hp⟩ <;> rw [hp] at h
  · cases h
  · cases h
  · simp only [↓reduceIte, List.append_assoc, List.cons_append, List.nil_append] at hcs
    rcases ofBody_error_cases (fun hmem => hlf (by simp [hcs, hmem])) h with hc | ⟨hdec, hlong⟩
    · exact Or.inl hc
    · exact Or.inr ⟨body, hdec, hlong, Or.inr (Or.inr ⟨c, r, hr, hcs⟩)⟩
  · cases h
    exact Or.inl rfl
  · rcases ofBody_error_cases hlf_inner h with hc | ⟨hdec, hlong⟩
    · exact Or.inl hc
    · refine Or.inr ⟨inner, hdec, hlong, ?_⟩
      cases indirect with
      | false => exact Or.inl hcs
      | true => exact Or.inr (Or.inl hcs)

/-- A decimal literal too long to convert fails as such, alone, in brackets or before a
register offset. -/
theorem parse_long {cs : List Char} (hlf : '\n' ∉ cs) (h : IsLongDecimalForm cs) :
    ∃ d, AsmError.decimalDigitLimit < d ∧ parse (String.ofList cs) = .error (.literalTooLong d) := by
  obtain ⟨ds, hdec, hlong, hform⟩ := h
  have hlit : IsLiteralText ds := Or.inl hdec
  rcases hform with rfl | rfl | ⟨c, r, hr, rfl⟩
  · exact ⟨_, hlong, (parse_literal hlit).trans (ofBody_long hlf hdec hlong)⟩
  · exact ⟨_, hlong, (parse_literal_bracketed hlit).trans
      (ofBody_long (not_mem_of_sublist hlf) hdec hlong)⟩
  · exact ⟨_, hlong, (parse_offset _ hr).trans
      (ofBody_long (fun h => hlf (by simp [h])) hdec hlong)⟩

/-- Reading an operand accepts exactly its written forms. For a token with no blank in
it: reading succeeds exactly when the token has one of the forms of `Reads`, and what it
reads is what the form stands for; it fails with one of the assembler's complaints,
except on a decimal literal of more digits than can be converted, alone, in brackets or
before a register offset, which fails as such. -/
theorem parse_accepts_forms (t : String) (hne : t ≠ "")
    (hblank : ∀ c ∈ t.toList, Text.isBlank c = false) :
    ((∃ o, parse t = .ok o) ↔ ∃ o, Reads t.toList o) ∧
    (∀ o, parse t = .ok o → Reads t.toList o) ∧
    (∀ e, parse t = .error e → e.isComplaint ∨ IsLongDecimalForm t.toList) ∧
    (IsLongDecimalForm t.toList →
      ∃ d, AsmError.decimalDigitLimit < d ∧ parse t = .error (.literalTooLong d)) := by
  have hlf : '\n' ∉ t.toList := fun h => by
    simpa [show Text.isBlank '\n' = true by decide] using hblank _ h
  have hnil : t.toList ≠ [] := fun h => hne (String.toList_inj.mp (by simpa using h))
  have ht : parse t = parse (String.ofList t.toList) := by rw [String.ofList_toList]
  rw [ht]
  refine ⟨⟨fun ⟨o, h⟩ => ⟨o, reads_of_parse hlf h⟩, fun ⟨o, h⟩ => ?_⟩,
    fun o h => reads_of_parse hlf h, fun e h => parse_error_cases hlf hnil h,
    fun h => parse_long hlf h⟩
  obtain ⟨o', hparse, -⟩ := parse_of_reads hlf h
  exact ⟨o', hparse⟩

theorem parse_accepts_forms_offset :
    ("[0x10+I]" ≠ "" ∧ ∀ c ∈ "[0x10+I]".toList, Text.isBlank c = false) ∧
    (((∃ o, parse "[0x10+I]" = .ok o) ↔ ∃ o, Reads "[0x10+I]".toList o) ∧
      (∀ o, parse "[0x10+I]" = .ok o → Reads "[0x10+I]".toList o) ∧
      (∀ e, parse "[0x10+I]" = .error e → e.isComplaint ∨ IsLongDecimalForm "[0x10+I]".toList) ∧
      (IsLongDecimalForm "[0x10+I]".toList →
        ∃ d, AsmError.decimalDigitLimit < d ∧ parse "[0x10+I]" = .error (.literalTooLong d))) :=
  have hne : "[0x10+I]" ≠ "" := by decide
  have hblank : ∀ c ∈ "[0x10+I]".toList, Text.isBlank c = false := by
    have hall : "[0x10+I]".toList.all (fun c => !Text.isBlank c) = true := by decide
    intro c hc
    simpa using List.all_eq_true.mp hall c hc
  ⟨⟨hne, hblank⟩, parse_accepts_forms "[0x10+I]" hne hblank⟩

/-- Three tokens outside the table: a register name before a register offset is read as a
label, a special name in brackets is read as the special operand, and a decimal literal of
4301 digits is not read at all. -/
theorem parse_beyond_table :
    parse "[A+B]" = .ok (.derefNext (.ref "A")) ∧
    parse "[POP]" = .ok (.special .pop true) ∧
    parse (String.ofList (List.replicate 4301 '1')) = .error (.literalTooLong 4301) := by
  refine ⟨rfl, rfl, ?_⟩
  have hlen : (List.replicate 4301 '1').length = 4301 := List.length_replicate
  have hdec : IsDecimalText (List.replicate 4301 '1') :=
    ⟨List.ne_nil_of_length_pos (by rw [hlen]; decide),
      fun c hc => by rw [List.eq_of_mem_replicate hc]; decide⟩
  have hlf : '\n' ∉ List.replicate 4301 '1' :=
    fun h => absurd (List.eq_of_mem_replicate h) (by decide)
  have hlong : AsmError.decimalDigitLimit < (List.replicate 4301 '1').length := by
    rw [hlen]
    decide
  rw [parse_literal (Or.inl hdec), ofBody_long hlf hdec hlong, hlen]

end Dcpu16Asm.Operand
