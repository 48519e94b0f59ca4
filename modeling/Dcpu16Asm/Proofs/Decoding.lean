import Dcpu16Asm.Decode
import Dcpu16Asm.Proofs.Streaming

/-!
Decoding assembled words. An operand takes a next word exactly when its code calls for
one, except a bracketed special operand such as `[POP]`: its code calls for none, but it
is written with an empty next word. Where no such operand occurs, the machine's walk over
the assembled words reads back one instruction for each instruction of the program, with
its opcode, its operand codes and its resolved next words, and ends at the last word.
Where one occurs, the walk cannot read the program back (`decode_assembleLines`).
-/
namespace Dcpu16Asm

namespace Decode

theorem takesNextWord_eq_true_iff (c : Nat) :
    takesNextWord c = true ↔ (0x10 ≤ c ∧ c ≤ 0x17) ∨ c = 0x1e ∨ c = 0x1f := by
  simp [takesNextWord, or_assoc]

theorem nextCount_le (w : Nat) : nextCount w ≤ 2 := by
  have hlen : (operandCodes w).length ≤ 2 := by
    unfold operandCodes
    split <;> simp
  exact Nat.le_trans (List.length_filter_le _ _) hlen

/-- A first word followed by as many next words as its operands take reads as one
instruction, and the walk goes on after them. -/
theorem decode_cons_append (w : Nat) (next rest : List Nat) (h : next.length = nextCount w) :
    decode (w :: (next ++ rest)) = (decode rest).map (header w next :: ·) := by
  have hle := nextCount_le w
  match next, h with
  | [], h =>
    have hcount : nextCount w = 0 := by simpa using h.symm
    simp only [List.nil_append, decode, hcount]
  | [x], h =>
    have hcount : nextCount w = 1 := by simpa using h.symm
    simp only [List.cons_append, List.nil_append, decode, hcount]
  | [x, y], h =>
    have hcount : nextCount w = 2 := by simpa using h.symm
    simp only [List.cons_append, List.nil_append, decode, hcount]
  | _ :: _ :: _ :: _, h =>
    simp only [List.length_cons] at h
    omega

/-- The operand codes of a decoded instruction, in the order their next words follow. -/
def codes : Decoded → List Nat
  | .basic _ a b _ => [a, b]
  | .nonBasic _ a _ => [a]

def next : Decoded → List Nat
  | .basic _ _ _ ns => ns
  | .nonBasic _ _ ns => ns

@[simp] theorem codes_header (w : Nat) (ns : List Nat) : codes (header w ns) = operandCodes w := by
  unfold header operandCodes
  split <;> rfl

@[simp] theorem next_header (w : Nat) (ns : List Nat) : next (header w ns) = ns := by
  unfold header
  split <;> rfl

/-- A decoded instruction took as many next words as its operand codes call for. -/
def TakesNextWords (d : Decoded) : Prop :=
  (next d).length = ((codes d).filter takesNextWord).length

theorem takesNextWords_header (w : Nat) (ns : List Nat) (hcount : nextCount w = ns.length) :
    TakesNextWords (header w ns) := by
  simpa [TakesNextWords, nextCount] using hcount.symm

/-- Every instruction the walk reads took as many next words as its codes call for. -/
theorem takesNextWords_of_decode (ws : List Nat) (ds : List Decoded) (h : decode ws = some ds) :
    ∀ d ∈ ds, TakesNextWords d := by
  fun_induction decode ws generalizing ds with
  | case1 => simp_all
  | case2 w rest hcount ih =>
    obtain ⟨ds', hds', rfl⟩ := Option.map_eq_some_iff.mp h
    exact List.forall_mem_cons.mpr ⟨takesNextWords_header w [] hcount, ih ds' hds'⟩
  | case3 w x rest hcount ih =>
    obtain ⟨ds', hds', rfl⟩ := Option.map_eq_some_iff.mp h
    exact List.forall_mem_cons.mpr ⟨takesNextWords_header w [x] hcount, ih ds' hds'⟩
  | case4 w x y rest hcount ih =>
    obtain ⟨ds', hds', rfl⟩ := Option.map_eq_some_iff.mp h
    exact List.forall_mem_cons.mpr ⟨takesNextWords_header w [x, y] hcount, ih ds' hds'⟩
  | case5 => cases h

end Decode

namespace Operand

open Decode

/-- The code of a special operand never calls for a next word, bracketed or not. -/
theorem takesNextWord_code_special (s : Special) (padded : Bool) :
    takesNextWord (special s padded).code = false := by
  cases htakes : takesNextWord (special s padded).code
  · rfl
  · have := s.index_lt
    rw [takesNextWord_eq_true_iff] at htakes
    simp only [code] at htakes
    omega

/-- An operand whose code calls for a next word takes one. -/
theorem hasNextWord_of_takesNextWord (o : Operand) (h : takesNextWord o.code = true) :
    o.hasNextWord = true := by
  rw [takesNextWord_eq_true_iff] at h
  cases o with
  | reg r => have := r.index_lt; simp only [code] at h; omega
  | deref r => have := r.index_lt; simp only [code] at h; omega
  | special s padded => have := s.index_lt; simp only [code] at h; omega
  | inline n => have := n.isLt; simp only [code] at h; omega
  | derefOffset _ _ | derefNext _ | next _ => rfl

/-- An operand that takes a next word has a code that calls for one, unless it is a
bracketed special operand. -/
theorem takesNextWord_of_hasNextWord (o : Operand) (h : o.hasNextWord = true)
    (hpadded : ∀ s, o ≠ .special s true) : takesNextWord o.code = true := by
  rw [takesNextWord_eq_true_iff]
  cases o with
  | derefOffset _ r => have := r.index_lt; simp only [code]; omega
  | derefNext _ | next _ => simp [code]
  | special s padded =>
    cases padded with
    | true => exact absurd rfl (hpadded s)
    | false => simp [hasNextWord, payload?] at h
  | reg _ | deref _ | inline _ => simp [hasNextWord, payload?] at h

/-- A bracketed special operand is the one operand that takes a next word its code does
not call for. -/
theorem hasNextWord_eq_takesNextWord_iff (o : Operand) :
    o.hasNextWord = takesNextWord o.code ↔ ∀ s, o ≠ .special s true := by
  constructor
  · rintro h s rfl
    simp [hasNextWord, payload?, takesNextWord_code_special] at h
  · intro hpadded
    exact Bool.eq_iff_iff.mpr
      ⟨fun h => takesNextWord_of_hasNextWord o h hpadded, hasNextWord_of_takesNextWord o⟩

theorem length_cells (o : Operand) : o.cells.length = if o.hasNextWord then 1 else 0 := by
  unfold cells hasNextWord
  cases o.payload? <;> rfl

theorem length_flatMap_cells (os : List Operand) :
    (os.flatMap cells).length = (os.filter hasNextWord).length := by
  induction os with
  | nil => rfl
  | cons o os ih =>
    rw [List.flatMap_cons, List.length_append, ih, length_cells, List.filter_cons]
    cases o.hasNextWord <;> simp [Nat.add_comm]

theorem length_filter_takesNextWord_le (os : List Operand) :
    (os.filter (takesNextWord ·.code)).length ≤ (os.filter hasNextWord).length := by
  induction os with
  | nil => exact Nat.le_refl 0
  | cons o os ih =>
    rw [List.filter_cons, List.filter_cons]
    cases htakes : takesNextWord o.code
    · cases o.hasNextWord <;> simp <;> omega
    · simp [hasNextWord_of_takesNextWord o htakes]
      omega

/-- Operands that take as many next words in all as their codes call for each take one
exactly when their code calls for one. -/
theorem hasNextWord_eq_of_length_filter_eq (os : List Operand)
    (h : (os.filter hasNextWord).length = (os.filter (takesNextWord ·.code)).length) :
    ∀ o ∈ os, o.hasNextWord = takesNextWord o.code := by
  induction os with
  | nil => simp
  | cons o os ih =>
    have hle := length_filter_takesNextWord_le os
    rw [List.filter_cons, List.filter_cons] at h
    cases htakes : takesNextWord o.code
    · cases hhas : o.hasNextWord
      · simp only [hhas, htakes] at h
        exact List.forall_mem_cons.mpr ⟨hhas.trans htakes.symm, ih h⟩
      · simp only [hhas, htakes, if_true, List.length_cons] at h
        simp at h
        omega
    · have hhas := hasNextWord_of_takesNextWord o htakes
      simp only [hhas, htakes, if_true, List.length_cons, Nat.add_right_cancel_iff] at h
      exact List.forall_mem_cons.mpr ⟨hhas.trans htakes.symm, ih h⟩

end Operand

namespace Instruction

open Decode

/-- How an instruction reads back once its references are resolved through `addr`: its
opcode, the codes of its operands, and their next words, resolved. -/
def readBack (addr : String → Option Nat) : Instruction → Decoded
  | .basic op a b => .basic op.code a.code b.code ((a.cells ++ b.cells).map (Cell.resolve addr))
  | .jsr a => .nonBasic 0x1 a.code (a.cells.map (Cell.resolve addr))

/-- The first word of a basic instruction holds its opcode, then `a`, then `b`. -/
theorem firstWord_fields_basic (op : BasicOp) (a b : Operand) :
    (basic op a b).firstWord % 0x10 = op.code ∧
      (basic op a b).firstWord / 0x10 % 0x40 = a.code ∧
      (basic op a b).firstWord / 0x400 = b.code := by
  have := a.code_lt
  have := b.code_lt
  have := op.code_pos_lt
  simp only [firstWord]
  omega

/-- The first word of JSR holds 0, then the code 1, then its operand. -/
theorem firstWord_fields_jsr (a : Operand) :
    (jsr a).firstWord % 0x10 = 0 ∧ (jsr a).firstWord / 0x10 % 0x40 = 0x1 ∧
      (jsr a).firstWord / 0x400 = a.code := by
  have := a.code_lt
  simp only [firstWord]
  omega

theorem operandCodes_firstWord (i : Instruction) :
    operandCodes i.firstWord = i.operands.map Operand.code := by
  cases i with
  | basic op a b =>
    obtain ⟨hop, ha, hb⟩ := firstWord_fields_basic op a b
    have hne : op.code ≠ 0 := Nat.pos_iff_ne_zero.mp op.code_pos_lt.1
    simp [operandCodes, operands, hop, ha, hb, hne]
  | jsr a =>
    obtain ⟨hop, -, ha⟩ := firstWord_fields_jsr a
    simp [operandCodes, operands, hop, ha]

theorem header_firstWord (i : Instruction) (addr : String → Option Nat) :
    header i.firstWord ((i.operands.flatMap Operand.cells).map (Cell.resolve addr)) =
      i.readBack addr := by
  cases i with
  | basic op a b =>
    obtain ⟨hop, ha, hb⟩ := firstWord_fields_basic op a b
    have hne : op.code ≠ 0 := Nat.pos_iff_ne_zero.mp op.code_pos_lt.1
    simp [header, readBack, operands, hop, ha, hb, hne]
  | jsr a =>
    obtain ⟨hop, hcode, ha⟩ := firstWord_fields_jsr a
    simp [header, readBack, operands, hop, hcode, ha]

@[simp] theorem codes_readBack (i : Instruction) (addr : String → Option Nat) :
    codes (i.readBack addr) = i.operands.map Operand.code := by
  cases i <;> rfl

theorem length_next_readBack (i : Instruction) (addr : String → Option Nat) :
    (next (i.readBack addr)).length = (i.operands.flatMap Operand.cells).length := by
  cases i <;> simp [readBack, next, operands]

/-- When each operand takes a next word exactly when its code calls for one, the
machine reads as many next words after the first word as the instruction has. -/
theorem nextCount_firstWord (i : Instruction)
    (h : ∀ o ∈ i.operands, o.hasNextWord = takesNextWord o.code) :
    nextCount i.firstWord = (i.operands.flatMap Operand.cells).length := by
  have hcongr : i.operands.filter (takesNextWord ∘ Operand.code) =
      i.operands.filter Operand.hasNextWord :=
    List.filter_congr fun o ho => (h o ho).symm
  rw [nextCount, operandCodes_firstWord, List.filter_map, List.length_map, hcongr,
    Operand.length_flatMap_cells]

theorem map_resolve_cells (i : Instruction) (addr : String → Option Nat) :
    i.cells.map (Cell.resolve addr) =
      i.firstWord :: (i.operands.flatMap Operand.cells).map (Cell.resolve addr) := by
  simp [cells, Cell.resolve]

end Instruction

namespace Program

open Decode

@[simp] theorem instructions_nil : instructions [] = [] := rfl

@[simp] theorem instructions_label_cons (l : String) (p : List Item) :
    instructions (.label l :: p) = instructions p := rfl

@[simp] theorem instructions_instr_cons (i : Instruction) (p : List Item) :
    instructions (.instr i :: p) = i :: instructions p := rfl

/-- Where every operand takes a next word exactly when its code calls for one, the walk
over a program's words reads back each of its instructions in turn. -/
theorem decode_map_resolve_cells (addr : String → Option Nat) (p : List Item)
    (h : ∀ i ∈ instructions p, ∀ o ∈ i.operands, o.hasNextWord = takesNextWord o.code) :
    decode ((cells p).map (Cell.resolve addr)) =
      some ((instructions p).map (Instruction.readBack addr)) := by
  induction p with
  | nil => rfl
  | cons x p ih =>
    cases x with
    | label l =>
      simp only [instructions_label_cons] at h
      simpa [Item.cells] using ih h
    | instr i =>
      simp only [instructions_instr_cons, List.forall_mem_cons] at h
      have hcount := i.nextCount_firstWord h.1
      rw [cells_cons, List.map_append, Item.cells, Instruction.map_resolve_cells,
        List.cons_append, Decode.decode_cons_append _ _ _ (by rw [List.length_map, hcount]),
        ih h.2, Instruction.header_firstWord]
      rfl

/-- If the walk over some words reads back a program's instructions, each operand takes
a next word exactly when its code calls for one. -/
theorem hasNextWord_of_decode (addr : String → Option Nat) (p : List Item) (ws : List Nat)
    (h : decode ws = some ((instructions p).map (Instruction.readBack addr))) :
    ∀ i ∈ instructions p, ∀ o ∈ i.operands, o.hasNextWord = takesNextWord o.code := by
  intro i hi
  have htakes := takesNextWords_of_decode ws _ h (i.readBack addr) (List.mem_map_of_mem hi)
  apply Operand.hasNextWord_eq_of_length_filter_eq
  rw [TakesNextWords, Instruction.length_next_readBack, Instruction.codes_readBack,
    List.filter_map, List.length_map, Operand.length_flatMap_cells] at htakes
  exact htakes

end Program

namespace Assembly

open Program Decode

/-- Decoding undoes assembly exactly when no operand is a bracketed special operand.
Take lines that assemble to words `W`. Every first word fits in sixteen bits, and the
machine's walk over `W` reads back the program's instructions in order, each with its
opcode, its operand codes and its resolved next words, ending at the last word, exactly
when no operand of the program is a special operand in brackets. -/
theorem decode_assembleLines (lines : List String) (W : List Nat)
    (h : assembleLines lines = .ok W) :
    (∀ i ∈ instructions (parseLines lines).items, i.firstWord < 0x10000) ∧
    (decode W = some ((instructions (parseLines lines).items).map
        (Instruction.readBack (address? · (parseLines lines).items))) ↔
      ∀ i ∈ instructions (parseLines lines).items, ∀ o ∈ i.operands,
        ∀ s, o ≠ .special s true) := by
  obtain ⟨-, hassemble⟩ := (assembleLines_eq_ok_iff lines W).mp h
  obtain ⟨-, -, rfl⟩ := (assemble_eq_ok_iff _ W).mp hassemble
  refine ⟨fun i _ => i.firstWord_lt, fun hdecode i hi o ho => ?_, fun hpadded => ?_⟩
  · exact (Operand.hasNextWord_eq_takesNextWord_iff o).mp
      (hasNextWord_of_decode _ _ _ hdecode i hi o ho)
  · apply decode_map_resolve_cells
    intro i hi o ho
    exact (Operand.hasNextWord_eq_takesNextWord_iff o).mpr (hpadded i hi o ho)

theorem decode_assembleLines_jsr_back :
    assembleLines ["SET A, 0x30", ":x JSR x"] = .ok [0x7c01, 0x30, 0x7c10, 2] ∧
      ((∀ i ∈ instructions (parseLines ["SET A, 0x30", ":x JSR x"]).items,
          i.firstWord < 0x10000) ∧
        (decode [0x7c01, 0x30, 0x7c10, 2] =
            some ((instructions (parseLines ["SET A, 0x30", ":x JSR x"]).items).map
              (Instruction.readBack (address? · (parseLines ["SET A, 0x30", ":x JSR x"]).items))) ↔
          ∀ i ∈ instructions (parseLines ["SET A, 0x30", ":x JSR x"]).items,
            ∀ o ∈ i.operands, ∀ s, o ≠ .special s true)) :=
  ⟨by rfl, decode_assembleLines _ _ (by rfl)⟩

/-- `SET [POP], A` assembles to two words, but the machine reads its empty next word as a
second instruction. -/
theorem decode_misreads_bracketed_pop :
    assembleLines ["SET [POP], A"] = .ok [0x181, 0] ∧
      decode [0x181, 0] = some [.basic 1 0x18 0 [], .nonBasic 0 0 []] ∧
      (instructions (parseLines ["SET [POP], A"]).items).map
          (Instruction.readBack (address? · (parseLines ["SET [POP], A"]).items)) =
        [.basic 1 0x18 0 [0]] :=
  ⟨rfl, by decide, by decide⟩

end Assembly

end Dcpu16Asm
