import Dcpu16Asm.Proofs.WordRange

/-!
What the first pass of assembly keeps. After any items that the pass has taken without
a failure, its layout holds four things (`Layout.Invariant`, `Layout.run_keeps_invariant`).
The words written are the words of the cells of those items. The table of labels holds
exactly the labels defined, each at the number of words written before its definition,
so no address is past the words written and the addresses grow in order of definition.
The fixups are exactly the positions whose cell refers to a label, with that label, in
order of position, and the word at each of them is 0.

Most of this is read off the closed form of the pass (`Layout.run_eq`); the order of the
addresses is kept step by step (`Layout.AddressesBelow.place`).
-/
namespace Dcpu16Asm

theorem Cell.mem_fixupsFrom_cons {k q : Nat} {l : String} {c : Cell} {cs : List Cell} :
    (q, l) ∈ Cell.fixupsFrom k (c :: cs) ↔
      (q = k ∧ c.ref = some l) ∨ (q, l) ∈ Cell.fixupsFrom (k + 1) cs := by
  cases hc : c.ref <;> simp [Cell.fixupsFrom, hc, eq_comm]

/-- The references among cells written from position `k` on: the `i`-th cell, if it
refers to a label, gives the fixup at `k + i`. -/
theorem Cell.mem_fixupsFrom {k q : Nat} {l : String} {cs : List Cell} :
    (q, l) ∈ Cell.fixupsFrom k cs ↔ ∃ i c, q = k + i ∧ cs[i]? = some c ∧ c.ref = some l := by
  induction cs generalizing k with
  | nil => simp [Cell.fixupsFrom]
  | cons c cs ih =>
    rw [Cell.mem_fixupsFrom_cons, ih]
    constructor
    · rintro (⟨rfl, hl⟩ | ⟨i, d, rfl, hd, hl⟩)
      · exact ⟨0, c, rfl, rfl, hl⟩
      · exact ⟨i + 1, d, by omega, hd, hl⟩
    · rintro ⟨i, d, rfl, hd, hl⟩
      cases i with
      | zero =>
        cases hd
        exact Or.inl ⟨rfl, hl⟩
      | succ i => exact Or.inr ⟨i, d, by omega, hd, hl⟩

theorem Cell.le_of_mem_fixupsFrom {k : Nat} {cs : List Cell} {f : Nat × String}
    (h : f ∈ Cell.fixupsFrom k cs) : k ≤ f.1 := by
  obtain ⟨q, l⟩ := f
  obtain ⟨i, -, rfl, -⟩ := Cell.mem_fixupsFrom.mp h
  exact Nat.le_add_right k i

/-- The fixups come in order of position, each position once. -/
theorem Cell.pairwise_fixupsFrom (k : Nat) (cs : List Cell) :
    ((Cell.fixupsFrom k cs).map Prod.fst).Pairwise (· < ·) := by
  induction cs generalizing k with
  | nil => simp [Cell.fixupsFrom]
  | cons c cs ih =>
    cases hc : c.ref with
    | none => simpa [Cell.fixupsFrom, hc] using ih (k + 1)
    | some l =>
      simp only [Cell.fixupsFrom, hc, List.map_cons, List.pairwise_cons, List.mem_map]
      refine ⟨?_, ih (k + 1)⟩
      rintro _ ⟨f, hf, rfl⟩
      have := Cell.le_of_mem_fixupsFrom hf
      omega

namespace Program

/-- A cell that refers to a label holds 0 until the label is resolved. -/
theorem word_eq_zero_of_ref {p : List Item} {c : Cell} {l : String} (hc : c ∈ cells p)
    (hl : c.ref = some l) : c.word = 0 := by
  obtain ⟨i, -, rfl | ⟨o, -, pl, -, rfl⟩⟩ := mem_cells hc
  · cases hl
  · cases pl with
    | num n => cases hl
    | ref l' => rfl

/-- A label's address is the number of words before a definition of it. -/
theorem eq_append_of_address?_eq_some {l : String} {p : List Item} {a : Nat}
    (h : address? l p = some a) : ∃ pre post, p = pre ++ .label l :: post ∧ a = size pre := by
  induction p generalizing a with
  | nil => simp [address?] at h
  | cons x p ih =>
    by_cases hx : x = .label l
    · simp only [address?, if_pos hx, Option.some.injEq] at h
      exact ⟨[], p, by rw [hx]; rfl, by simp [h]⟩
    · simp only [address?, if_neg hx, Option.map_eq_some_iff] at h
      obtain ⟨b, hb, rfl⟩ := h
      obtain ⟨pre, post, rfl, rfl⟩ := ih hb
      exact ⟨x :: pre, post, rfl, rfl⟩

/-- With no label defined twice, a label has the address of the words before its
definition. -/
theorem address?_boundary {l : String} {pre post : List Item}
    (hnodup : (labelDefs (pre ++ .label l :: post)).Nodup) :
    address? l (pre ++ .label l :: post) = some (size pre) := by
  have hfresh : l ∉ labelDefs pre := by
    rw [labelDefs_append, labelDefs_label_cons] at hnodup
    exact fun hl => (List.nodup_append.mp hnodup).2.2 l hl l List.mem_cons_self rfl
  rw [address?_append, (address?_eq_none_iff l pre).mpr hfresh]
  simp [address?]

theorem address?_eq_some_iff {l : String} {p : List Item} {a : Nat}
    (hnodup : (labelDefs p).Nodup) :
    address? l p = some a ↔ ∃ pre post, p = pre ++ .label l :: post ∧ a = size pre := by
  refine ⟨eq_append_of_address?_eq_some, ?_⟩
  rintro ⟨pre, post, rfl, rfl⟩
  exact address?_boundary hnodup

end Program

namespace Assembly.Layout

@[simp] theorem place_instr_symbols (s : Layout) (i : Instruction) :
    (s.place (.instr i)).symbols = s.symbols :=
  foldl_addCell_symbols s i.cells

@[simp] theorem place_label_symbols (s : Layout) (l : String) :
    (s.place (.label l)).symbols = (l, s.words.size) :: s.symbols := rfl

theorem extend_names (s : Layout) (p : List Item) :
    (s.extend p).names = (Program.labelDefs p).reverse ++ s.names := by
  induction p generalizing s with
  | nil => simp
  | cons x p ih =>
    cases x with
    | instr i => rw [extend_cons, ih, place_instr_names, Program.labelDefs_instr_cons]
    | label l => simp [ih]

/-- The addresses in the table, latest first, never grow, and none is past the words
written. -/
def AddressesBelow (s : Layout) : Prop :=
  (s.symbols.map Prod.snd).Pairwise (· ≥ ·) ∧ ∀ a ∈ s.symbols.map Prod.snd, a ≤ s.words.size

theorem empty_addressesBelow : empty.AddressesBelow := by
  simp [AddressesBelow, empty]

/-- Placing an item keeps the addresses ordered and below the words written: a label
takes the number of words as its address, and an instruction only writes more words. -/
theorem AddressesBelow.place {s : Layout} (h : s.AddressesBelow) (x : Item) :
    (s.place x).AddressesBelow := by
  obtain ⟨hsorted, hle⟩ := h
  cases x with
  | instr i =>
    refine ⟨by simpa using hsorted, fun a ha => ?_⟩
    have := hle a (by simpa using ha)
    simp only [place_words_size]
    omega
  | label l =>
    have hsize : (s.place (.label l)).words.size = s.words.size := by
      simp [place_words_size, Item.size, Item.cells]
    refine ⟨?_, fun a ha => ?_⟩
    · simp only [place_label_symbols, List.map_cons, List.pairwise_cons]
      exact ⟨fun a ha => hle a ha, hsorted⟩
    · rw [hsize]
      simp only [place_label_symbols, List.map_cons, List.mem_cons] at ha
      rcases ha with rfl | ha
      · exact Nat.le_refl _
      · exact hle a ha

theorem AddressesBelow.extend {s : Layout} (h : s.AddressesBelow) (p : List Item) :
    (s.extend p).AddressesBelow := by
  induction p generalizing s with
  | nil => exact h
  | cons x p ih => exact ih (h.place x)

/-- What the first pass keeps after taking the items `p`. -/
structure Invariant (p : List Item) (s : Layout) : Prop where
  /-- The words written are the words of the items' cells, in order. -/
  words_eq : s.words.toList = (Program.cells p).map Cell.word
  /-- The table names the labels defined, latest first. -/
  names_eq : s.names = (Program.labelDefs p).reverse
  /-- A label is in the table exactly when it is defined, at the number of words written
  before its definition. -/
  lookup_eq_some_iff : ∀ l a, s.symbols.lookup l = some a ↔
    ∃ pre post, p = pre ++ .label l :: post ∧ a = Program.size pre
  lookup_le : ∀ l a, s.symbols.lookup l = some a → a ≤ s.words.size
  /-- The addresses grow in order of definition. -/
  addresses_sorted : (s.symbols.map Prod.snd).reverse.Pairwise (· ≤ ·)
  /-- The fixups are the positions whose cell refers to a label, with that label. -/
  mem_fixups_iff : ∀ q l, (q, l) ∈ s.fixups.toList ↔
    ∃ c, (Program.cells p)[q]? = some c ∧ c.ref = some l
  /-- The fixups come in order of position, each position once. -/
  fixups_sorted : (s.fixups.toList.map Prod.fst).Pairwise (· < ·)
  /-- The word at each fixup is 0. -/
  word_fixup : ∀ q l, (q, l) ∈ s.fixups.toList → s.words[q]? = some 0

theorem mem_fixups_extend_empty {p : List Item} {q : Nat} {l : String} :
    (q, l) ∈ (empty.extend p).fixups.toList ↔
      ∃ c, (Program.cells p)[q]? = some c ∧ c.ref = some l := by
  rw [extend_empty_fixups, Cell.mem_fixupsFrom]
  simp

/-- Placing the items of a program in which no label repeats, from nothing, gives a
layout with the invariant. -/
theorem invariant_extend_empty {p : List Item} (h : firstRepeat [] (Program.labelDefs p) = none) :
    (empty.extend p).Invariant p := by
  have hwords : (empty.extend p).words.toList = (Program.cells p).map Cell.word := by
    simpa [empty] using extend_words empty p
  have hsize : (empty.extend p).words.size = Program.size p := by
    simpa [empty] using extend_words_size empty p
  refine ⟨hwords, by simpa using extend_names empty p, fun l a => ?_, fun l a ha => ?_,
    ?_, fun q l => mem_fixups_extend_empty, ?_, fun q l hq => ?_⟩
  · rw [lookup_extend_empty h]
    exact Program.address?_eq_some_iff ((firstRepeat_nil_eq_none_iff _).mp h)
  · rw [lookup_extend_empty h] at ha
    rw [hsize]
    exact Program.address?_le_size ha
  · exact List.pairwise_reverse.mpr (empty_addressesBelow.extend p).1
  · rw [extend_empty_fixups]
    exact Cell.pairwise_fixupsFrom 0 _
  · obtain ⟨c, hc, hl⟩ := mem_fixups_extend_empty.mp hq
    have hzero := Program.word_eq_zero_of_ref (List.mem_of_getElem? hc) hl
    rw [← Array.getElem?_toList, hwords, List.getElem?_map, hc, Option.map_some, hzero]

/-- The first pass keeps its invariant: after any items it takes without a failure, the
layout is as `Invariant` says. -/
theorem run_keeps_invariant {p : List Item} {s : Layout} (h : empty.run p = .ok s) :
    s.Invariant p := by
  rw [run_eq] at h
  cases hrep : firstRepeat empty.names (Program.labelDefs p) with
  | some l =>
    rw [hrep] at h
    cases h
  | none =>
    rw [hrep] at h
    cases h
    exact invariant_extend_empty hrep

/-- A label used before it is defined: after `:a`, `JSR b` and `:b` the table holds `a`
at 0 and `b` at 2, and the one fixup is the next word of the jump. -/
theorem run_keeps_invariant_forward_jump :
    empty.run [.label "a", .instr (.jsr (.next (.ref "b"))), .label "b"] =
        .ok ⟨#[0x7c10, 0], [("b", 2), ("a", 0)], #[(1, "b")]⟩ ∧
      Invariant [.label "a", .instr (.jsr (.next (.ref "b"))), .label "b"]
        ⟨#[0x7c10, 0], [("b", 2), ("a", 0)], #[(1, "b")]⟩ :=
  ⟨rfl, run_keeps_invariant rfl⟩

end Assembly.Layout

end Dcpu16Asm
