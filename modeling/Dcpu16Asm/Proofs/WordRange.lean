import Dcpu16Asm.Proofs.LineReading
import Dcpu16Asm.Proofs.Relocation

/-!
Which assembled words fit in sixteen bits. Every word of an assembled program is the
first word of an instruction, a number written in an operand and kept as written, or
the address of a label, which is at most the number of words of the program. First
words always fit. So the words all fit exactly when the numbers written in operands do
and every label referred to is defined within the first `0x10000` words
(`assembleLines_words_lt`). Assembly sets no bound on a program's size: a label defined
after `0x8000` two-word instructions receives the address `0x10000`
(`assembleLines_address_past_memory`).
-/
namespace Dcpu16Asm

namespace Program

theorem address?_le_size {l : String} {p : List Item} {a : Nat}
    (h : address? l p = some a) : a ≤ size p := by
  induction p generalizing a with
  | nil => simp [address?] at h
  | cons x p ih =>
    by_cases hx : x = .label l
    · simp only [address?, if_pos hx, Option.some.injEq] at h
      omega
    · simp only [address?, if_neg hx, Option.map_eq_some_iff] at h
      obtain ⟨b, hb, rfl⟩ := h
      have := ih hb
      simp only [size_cons]
      omega

/-- Every cell of a program is the first word of one of its instructions, or the next
word of one of their operands. -/
theorem mem_cells {p : List Item} {c : Cell} (hc : c ∈ cells p) :
    ∃ i ∈ instructions p, c = ⟨i.firstWord, none⟩ ∨
      ∃ o ∈ i.operands, ∃ pl, o.payload? = some pl ∧ c = ⟨pl.word, pl.label?⟩ := by
  obtain ⟨x, hx, hcx⟩ := List.mem_flatMap.mp hc
  cases x with
  | label l => simp [Item.cells] at hcx
  | instr i =>
    refine ⟨i, List.mem_filterMap.mpr ⟨_, hx, rfl⟩, ?_⟩
    simp only [Item.cells, Instruction.cells, List.mem_cons, List.mem_flatMap] at hcx
    rcases hcx with rfl | ⟨o, ho, hco⟩
    · exact Or.inl rfl
    · refine Or.inr ⟨o, ho, ?_⟩
      unfold Operand.cells at hco
      cases hpl : o.payload? with
      | none => simp [hpl] at hco
      | some pl =>
        simp only [hpl, List.mem_singleton] at hco
        exact ⟨pl, rfl, hco⟩

/-- The next word of an operand of an instruction of a program is one of its cells. -/
theorem payload_mem_cells {p : List Item} {i : Instruction} {o : Operand} {pl : Payload}
    (hi : i ∈ instructions p) (ho : o ∈ i.operands) (hpl : o.payload? = some pl) :
    (⟨pl.word, pl.label?⟩ : Cell) ∈ cells p := by
  obtain ⟨x, hx, hxi⟩ := List.mem_filterMap.mp hi
  cases x with
  | label l => cases hxi
  | instr j =>
    cases hxi
    refine List.mem_flatMap.mpr ⟨.instr i, hx, ?_⟩
    simp only [Item.cells, Instruction.cells, List.mem_cons, List.mem_flatMap]
    exact Or.inr ⟨o, ho, by simp [Operand.cells, hpl]⟩

/-- A label referred to is named by one of the cells. -/
theorem exists_cell_of_mem_labelRefs {p : List Item} {l : String} (hl : l ∈ labelRefs p) :
    ∃ c ∈ cells p, c.ref = some l := by
  rw [labelRefs_eq_filterMap_cells, List.mem_filterMap] at hl
  exact hl

theorem size_replicate (n : Nat) (x : Item) : size (List.replicate n x) = n * x.size := by
  induction n with
  | zero => simp
  | succ n ih => rw [List.replicate_succ, size_cons, ih, Nat.succ_mul, Nat.add_comm]

end Program

/-! ### Reading repeated lines -/

theorem parseLines_replicate {l : String} (h : (parseLine l).halt = none) (n : Nat) :
    parseLines (List.replicate n l) = ⟨(List.replicate n (parseLine l).items).flatten, none⟩ := by
  induction n with
  | zero => rfl
  | succ n ih =>
    rw [List.replicate_succ, parseLines_cons_of_halt_eq_none _ h, ih, List.replicate_succ,
      List.flatten_cons]

namespace Assembly

open Program

/-- The words of a program that assembles fit in sixteen bits exactly when the numbers
written in its operands do and every label it refers to has an address below
`0x10000`. -/
theorem assemble_words_lt_iff {p : List Item} {W : List Nat} (h : assemble p = .ok W) :
    (∀ w ∈ W, w < 0x10000) ↔
      (∀ i ∈ instructions p, ∀ o ∈ i.operands, ∀ n, o.payload? = some (.num n) → n < 0x10000) ∧
      (∀ l ∈ labelRefs p, ∀ a, address? l p = some a → a < 0x10000) := by
  obtain ⟨-, hdef, rfl⟩ := (assemble_eq_ok_iff p W).mp h
  rw [List.forall_mem_map]
  constructor
  · intro hlt
    refine ⟨fun i hi o ho n hn => ?_, fun l hl a ha => ?_⟩
    · simpa [Cell.resolve, Payload.word, Payload.label?] using
        hlt _ (payload_mem_cells hi ho hn)
    · obtain ⟨c, hc, hcl⟩ := exists_cell_of_mem_labelRefs hl
      simpa [Cell.resolve, hcl, ha] using hlt c hc
  · rintro ⟨hnum, haddr⟩ c hc
    rcases mem_cells hc with ⟨i, hi, rfl | ⟨o, ho, pl, hpl, rfl⟩⟩
    · exact i.firstWord_lt
    · cases pl with
      | num n => exact hnum i hi o ho n hpl
      | ref l =>
        have hl : l ∈ labelRefs p :=
          mem_labelRefs_of_mem_cells (payload_mem_cells hi ho hpl) rfl
        obtain ⟨a, ha⟩ := address?_eq_some_of_mem l p (hdef l hl)
        simpa [Cell.resolve, Payload.label?, ha] using haddr l hl a ha

/-- Which assembled words fit in sixteen bits. For lines that assemble to `W`, every
first word fits, every label referred to has an address of at most the length of `W`,
and all words fit exactly when the numbers written in operands do and every label
referred to has an address below `0x10000`. -/
theorem assembleLines_words_lt (lines : List String) (W : List Nat)
    (h : assembleLines lines = .ok W) :
    (∀ i ∈ instructions (parseLines lines).items, i.firstWord < 0x10000) ∧
    (∀ l ∈ labelRefs (parseLines lines).items,
      ∃ a, address? l (parseLines lines).items = some a ∧ a ≤ W.length) ∧
    ((∀ w ∈ W, w < 0x10000) ↔
      (∀ i ∈ instructions (parseLines lines).items, ∀ o ∈ i.operands, ∀ n,
        o.payload? = some (.num n) → n < 0x10000) ∧
      (∀ l ∈ labelRefs (parseLines lines).items,
        ∀ a, address? l (parseLines lines).items = some a → a < 0x10000)) := by
  obtain ⟨-, hassemble⟩ := (assembleLines_eq_ok_iff lines W).mp h
  obtain ⟨-, hdef, -⟩ := (assemble_eq_ok_iff _ W).mp hassemble
  refine ⟨fun i _ => i.firstWord_lt, fun l hl => ?_, assemble_words_lt_iff hassemble⟩
  obtain ⟨a, ha⟩ := address?_eq_some_of_mem l _ (hdef l hl)
  exact ⟨a, ha, length_eq_size_of_assemble hassemble ▸ address?_le_size ha⟩

theorem assembleLines_words_lt_jsr_self :
    assembleLines [":x JSR x"] = .ok [0x7c10, 0] ∧
    (∀ i ∈ instructions (parseLines [":x JSR x"]).items, i.firstWord < 0x10000) ∧
    (∀ l ∈ labelRefs (parseLines [":x JSR x"]).items,
      ∃ a, address? l (parseLines [":x JSR x"]).items = some a ∧ a ≤ [0x7c10, 0].length) ∧
    ((∀ w ∈ [0x7c10, 0], w < 0x10000) ↔
      (∀ i ∈ instructions (parseLines [":x JSR x"]).items, ∀ o ∈ i.operands, ∀ n,
        o.payload? = some (.num n) → n < 0x10000) ∧
      (∀ l ∈ labelRefs (parseLines [":x JSR x"]).items,
        ∀ a, address? l (parseLines [":x JSR x"]).items = some a → a < 0x10000)) :=
  ⟨rfl, assembleLines_words_lt _ _ rfl⟩

/-- A label defined after `n` instructions `JSR 99`, of two words each, has the address
`2 * n`, whatever the size of the memory. -/
theorem assembleLines_label_after_jsr_literals (n : Nat) :
    assembleLines (List.replicate n "JSR 99" ++ [":end JSR end"]) =
      .ok ((List.replicate n [0x7c10, 99]).flatten ++ [0x7c10, 2 * n]) := by
  have hjsr : parseLine "JSR 99" = ⟨[.instr (.jsr (.next (.num 99)))], none⟩ := by decide
  have hend : parseLine ":end JSR end" =
      ⟨[.label "end", .instr (.jsr (.next (.ref "end")))], none⟩ := by decide
  have hcells : Instruction.cells (.jsr (.next (.num 99))) = [⟨0x7c10, none⟩, ⟨99, none⟩] := rfl
  have hcellsEnd : Instruction.cells (.jsr (.next (.ref "end"))) =
      [⟨0x7c10, none⟩, ⟨0, some "end"⟩] := rfl
  have hread : parseLines (List.replicate n "JSR 99" ++ [":end JSR end"]) =
      ⟨List.replicate n (.instr (.jsr (.next (.num 99)))) ++
        [.label "end", .instr (.jsr (.next (.ref "end")))], none⟩ := by
    have hhalt : (parseLines (List.replicate n "JSR 99")).halt = none := by
      rw [parseLines_replicate (by rw [hjsr]) n]
    rw [parseLines_append _ hhalt, parseLines_replicate (by rw [hjsr]) n, hjsr,
      List.flatten_replicate_singleton]
    simp [parseLines, Parsed.andThen, Parsed.empty, hend]
  have haddr : address? "end" (List.replicate n (.instr (.jsr (.next (.num 99)))) ++
      [.label "end", .instr (.jsr (.next (.ref "end")))]) = some (2 * n) := by
    have hnone : address? "end" (List.replicate n (.instr (.jsr (.next (.num 99))))) = none := by
      rw [address?_eq_none_iff]
      simp [labelDefs, List.filterMap_replicate, Item.defines]
    rw [address?_append, hnone, size_replicate]
    simp [address?, Item.size, Item.cells, hcells, Nat.mul_comm]
  apply (assembleLines_eq_ok_iff _ _).mpr
  rw [hread]
  refine ⟨rfl, (assemble_eq_ok_iff _ _).mpr ⟨?_, ?_, ?_⟩⟩
  · simp [labelDefs, List.filterMap_replicate, List.filterMap_cons, Item.defines]
  · simp [labelRefs, labelDefs, List.filterMap_replicate, List.filterMap_cons, Item.defines,
      Item.references, hcells, hcellsEnd, Item.cells, List.flatMap_replicate]
  · simp [cells, List.flatMap_replicate, hcells, hcellsEnd, List.map_flatten, Cell.resolve,
      haddr, Item.cells]

/-- A program of `0x8000` instructions `JSR 99` followed by a label referred to gives that
label the address `0x10000`, one past the last word of memory. -/
theorem assembleLines_address_past_memory :
    assembleLines (List.replicate 0x8000 "JSR 99" ++ [":end JSR end"]) =
        .ok ((List.replicate 0x8000 [0x7c10, 99]).flatten ++ [0x7c10, 0x10000]) ∧
      0xFFFF < 0x10000 :=
  ⟨assembleLines_label_after_jsr_literals 0x8000, by decide⟩

end Assembly

end Dcpu16Asm
