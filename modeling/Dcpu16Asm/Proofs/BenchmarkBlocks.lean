import Dcpu16Asm.Bench.Suite
import Dcpu16Asm.Proofs.LineReading
import Dcpu16Asm.Proofs.Relocation
import Dcpu16Asm.Proofs.Renaming

/-!
The blocks of the benchmark program. Block `k` reads, line by line, as `blockReading`
with the number `k` written after each of its six label names (`parseLines_blockLines`).
So the program of `n` blocks reads as the items of its blocks one after another
(`parseLines_program`). A block is the block with bare label names renamed, and no two
blocks share a label, so the program assembles to the words of one block repeated, the
references of block `k` moved by `k` times the size of a block (`assemble_blocks`).
-/

namespace Dcpu16Asm.Bench

open Program Assembly

/-- The items of the block whose labels end in `s`, line by line. -/
def blockReading (s : String) : List (List Item) :=
  [[.label ("loop" ++ s), .label ("start" ++ s)],
   [.instr (.basic .set (.reg .a) (.next (.num 0x30)))],
   [.instr (.basic .set (.derefNext (.num 0x1000)) (.next (.num 0x20)))],
   [.instr (.basic .sub (.reg .a) (.derefNext (.num 0x1000)))],
   [.instr (.basic .ifn (.reg .a) (.inline 0x10))],
   [.instr (.basic .set (.special .pc false) (.next (.ref ("crash" ++ s))))],
   [.instr (.basic .set (.reg .i) (.inline 10))],
   [.instr (.basic .set (.reg .a) (.next (.num 0x2000)))],
   [.instr (.basic .set (.derefOffset (.num 0x2000) .i) (.deref .a))],
   [.instr (.basic .sub (.reg .i) (.inline 1))],
   [.instr (.basic .ifn (.reg .i) (.inline 0))],
   [.instr (.basic .set (.special .pc false) (.next (.ref ("loop" ++ s))))],
   [.instr (.basic .set (.reg .x) (.inline 4))],
   [.instr (.jsr (.next (.ref ("testsub" ++ s))))],
   [.instr (.basic .set (.special .pc false) (.next (.ref ("crash" ++ s))))],
   [.label ("testsub" ++ s), .instr (.basic .shl (.reg .x) (.inline 4))],
   [.instr (.basic .set (.special .pc false) (.special .pop false))],
   [.label ("crash" ++ s), .label ("again" ++ s),
    .instr (.basic .set (.special .pc false) (.next (.ref ("crash" ++ s))))],
   [.instr (.basic .add (.reg .a) (.reg .b))],
   [.instr (.basic .mul (.deref .c) (.deref .x))],
   [.instr (.basic .div (.reg .y) (.reg .z))],
   [.instr (.basic .mod (.reg .i) (.reg .j))],
   [.instr (.basic .shr (.reg .a) (.inline 5))],
   [.instr (.basic .and (.reg .b) (.next (.num 100)))],
   [.instr (.basic .bor (.reg .c) (.derefNext (.num 500)))],
   [.instr (.basic .xor (.reg .x) (.derefOffset (.num 200) .y))],
   [.instr (.basic .ife (.reg .a) (.special .peek false))],
   [.instr (.basic .ifg (.reg .b) (.special .push false))],
   [.instr (.basic .ifb (.reg .c) (.special .sp false))],
   [.instr (.basic .set (.special .o false) (.special .pc false))],
   [.instr (.basic .set (.reg .a) (.derefOffset (.num 0xAB) .j))],
   [.instr (.basic .set (.reg .b) (.derefNext (.ref ("target" ++ s))))],
   [.label ("target" ++ s), .instr (.basic .set (.reg .a) (.inline 0))],
   [],
   []]

/-- The items of the block whose labels end in `s`. -/
def blockItems (s : String) : List Item := (blockReading s).flatten

/-- The names a block gives its labels, before the block's number. -/
def blockNames : List String := ["loop", "start", "testsub", "crash", "again", "target"]

/-! ### Reading the lines that name labels -/

theorem isDigit_of_mem_toString {k : Nat} : ∀ c ∈ (toString k).toList, c.isDigit = true := by
  intro c hc
  rw [show toString k = Nat.repr k from rfl, Nat.toList_repr] at hc
  exact Nat.isDigit_of_mem_toDigits (by decide) (by decide) hc

section Suffix

variable {s : String} (hs : ∀ c ∈ s.toList, c.isDigit = true)
include hs

theorem not_semicolon_of_digits : ∀ c ∈ s.toList, (!decide (c = ';')) = true := by
  intro c hc
  have hd := hs c hc
  rw [Char.isDigit_iff_toNat] at hd
  simp only [Bool.not_eq_eq_eq_not, Bool.not_true, decide_eq_false_iff_not]
  rintro rfl
  simp at hd

theorem not_blank_of_digits : ∀ c ∈ s.toList, Text.isBlank c = false :=
  fun c hc => Text.isBlank_of_isDigit (hs c hc)

/-- A lowercase word followed by the digits is read as a reference to a label. -/
theorem parse_append_digits {w : String} (hw : w.toList ≠ [])
    (hlower : w.toList.all (fun c => 97 ≤ c.toNat && c.toNat ≤ 122) = true) :
    Operand.parse (w ++ s) = .ok (.next (.ref (w ++ s))) :=
  have hname := Operand.isLabelName_lower_append_digits hw hlower hs
  Operand.parse_name hname.1 hname.2

theorem parse_append_digits_bracketed {w : String} (hw : w.toList ≠ [])
    (hlower : w.toList.all (fun c => 97 ≤ c.toNat && c.toNat ≤ 122) = true) :
    Operand.parse ("[" ++ (w ++ s) ++ "]") = .ok (.derefNext (.ref (w ++ s))) :=
  have hname := Operand.isLabelName_lower_append_digits hw hlower hs
  Operand.parse_name_bracketed hname.1 hname.2

/-- `SET PC, w`: a jump to a label of the block. -/
theorem parseFields_jump {w : String} (hw : w.toList ≠ [])
    (hlower : w.toList.all (fun c => 97 ≤ c.toNat && c.toNat ≤ 122) = true) :
    parseFields ["SET", "PC" ++ ",", w ++ s] =
      ⟨[.instr (.basic .set (.special .pc false) (.next (.ref (w ++ s))))], none⟩ :=
  parseFields_instr (by decide)
    (Instruction.parse_basic (show Mnemonic.ofName? "SET" = _ from rfl)
      (show Operand.parse "PC" = .ok (.special .pc false) from rfl) (parse_append_digits hs hw hlower))

theorem parseLine_header :
    parseLine (":loop" ++ s ++ " :start" ++ s ++ "   ; block header") =
      ⟨[.label ("loop" ++ s), .label ("start" ++ s)], none⟩ := by
  have hfields : Text.fields (stripComment (":loop" ++ s ++ " :start" ++ s ++ "   ; block header")) =
      [":" ++ ("loop" ++ s), ":" ++ ("start" ++ s)] := by
    simp +decide [Text.fields, stripComment, Text.fieldRuns,
      List.takeWhile_append_of_pos (not_semicolon_of_digits hs),
      Text.fieldRuns_append_of_not_blank (not_blank_of_digits hs), ← String.append_assoc]
  rw [parseLine, hfields, parseFields_label_cons (by simp), parseFields_label_cons (by simp)]
  rfl

/-- A lowercase word followed by the digits holds no `;` and no blank. -/
theorem ne_semicolon_not_blank_of_lower {w : String}
    (hlower : w.toList.all (fun c => 97 ≤ c.toNat && c.toNat ≤ 122) = true) :
    ∀ c ∈ (w ++ s).toList, c ≠ ';' ∧ Text.isBlank c = false := by
  intro c hc
  rw [String.toList_append, List.mem_append] at hc
  rcases hc with hc | hc
  · have hl := List.all_eq_true.mp hlower c hc
    simp only [Bool.and_eq_true, decide_eq_true_eq] at hl
    refine ⟨fun h => ?_, Text.isBlank_of_visible (by omega) (by omega)⟩
    subst h
    simp at hl
  · exact ⟨by simpa using not_semicolon_of_digits hs c hc, not_blank_of_digits hs c hc⟩

/-- `SET PC, w` after `n` spaces: a jump to a label of the block. -/
theorem parseLine_jump (line w : String) (n : Nat)
    (hline : String.ofList (List.replicate n ' ') ++ "SET PC, " ++ w = line) (hw : w.toList ≠ [])
    (hlower : w.toList.all (fun c => 97 ≤ c.toNat && c.toNat ≤ 122) = true) :
    parseLine (line ++ s) =
      ⟨[.instr (.basic .set (.special .pc false) (.next (.ref (w ++ s))))], none⟩ := by
  have hplain := ne_semicolon_not_blank_of_lower hs hlower
  have hword : Text.fieldRuns [] (w.toList ++ s.toList) = [w.toList ++ s.toList] :=
    Text.fieldRuns_single (fun c hc => (hplain c (by simpa using hc)).2) (by simp [hw])
  have hfields : Text.fields (stripComment (line ++ s)) = ["SET", "PC" ++ ",", w ++ s] := by
    rw [← hline, stripComment, String.append_assoc, String.append_assoc, String.toList_append,
      String.toList_ofList, List.takeWhile_append_of_pos (by simp [List.mem_replicate]),
      String.toList_append, List.takeWhile_append_of_pos (by simp),
      List.takeWhile_eq_self_iff.mpr (fun c hc => by simpa using (hplain c hc).1)]
    simp +decide [Text.fields, Text.fieldRuns_spaces, Text.fieldRuns, hword]
  rw [parseLine, hfields, parseFields_jump hs hw hlower]

theorem parseLine_call_testsub :
    parseLine ("JSR testsub" ++ s) =
      ⟨[.instr (.jsr (.next (.ref ("testsub" ++ s))))], none⟩ := by
  have hfields : Text.fields (stripComment ("JSR testsub" ++ s)) = ["JSR", "testsub" ++ s] := by
    simp +decide [Text.fields, stripComment, Text.fieldRuns,
      List.takeWhile_eq_self_iff.mpr (not_semicolon_of_digits hs),
      Text.fieldRuns_of_not_blank (not_blank_of_digits hs), ← String.append_assoc]
  rw [parseLine, hfields,
    parseFields_instr (by decide) (Instruction.parse_jsr (parse_append_digits hs (by decide) (by decide)))]

theorem parseLine_testsub :
    parseLine (":testsub" ++ s ++ " SHL X, 4") =
      ⟨[.label ("testsub" ++ s), .instr (.basic .shl (.reg .x) (.inline 4))], none⟩ := by
  have hfields : Text.fields (stripComment (":testsub" ++ s ++ " SHL X, 4")) =
      [":" ++ ("testsub" ++ s), "SHL", "X" ++ ",", "4"] := by
    simp +decide [Text.fields, stripComment, Text.fieldRuns,
      List.takeWhile_append_of_pos (not_semicolon_of_digits hs),
      Text.fieldRuns_append_of_not_blank (not_blank_of_digits hs), ← String.append_assoc]
  rw [parseLine, hfields, parseFields_label_cons (by simp),
    parseFields_instr (by decide) (Instruction.parse_basic (show Mnemonic.ofName? "SHL" = _ from rfl)
      (show Operand.parse "X" = .ok (.reg .x) from rfl)
      (show Operand.parse "4" = .ok (.inline 4) from rfl))]
  rfl

theorem parseLine_crash :
    parseLine (":crash" ++ s ++ " :again" ++ s ++ " SET PC, crash" ++ s) =
      ⟨[.label ("crash" ++ s), .label ("again" ++ s),
        .instr (.basic .set (.special .pc false) (.next (.ref ("crash" ++ s))))], none⟩ := by
  have hfields : Text.fields (stripComment (":crash" ++ s ++ " :again" ++ s ++ " SET PC, crash" ++ s)) =
      [":" ++ ("crash" ++ s), ":" ++ ("again" ++ s), "SET", "PC" ++ ",", "crash" ++ s] := by
    simp +decide [Text.fields, stripComment, Text.fieldRuns,
      List.takeWhile_append_of_pos (not_semicolon_of_digits hs),
      List.takeWhile_eq_self_iff.mpr (not_semicolon_of_digits hs),
      Text.fieldRuns_of_not_blank (not_blank_of_digits hs),
      Text.fieldRuns_append_of_not_blank (not_blank_of_digits hs), ← String.append_assoc]
  rw [parseLine, hfields, parseFields_label_cons (by simp), parseFields_label_cons (by simp),
    parseFields_jump hs (by decide) (by decide)]
  rfl

theorem parseLine_load_target :
    parseLine ("SET B, [target" ++ s ++ "]") =
      ⟨[.instr (.basic .set (.reg .b) (.derefNext (.ref ("target" ++ s))))], none⟩ := by
  have hfields : Text.fields (stripComment ("SET B, [target" ++ s ++ "]")) =
      ["SET", "B" ++ ",", "[" ++ ("target" ++ s) ++ "]"] := by
    simp +decide [Text.fields, stripComment, Text.fieldRuns,
      List.takeWhile_append_of_pos (not_semicolon_of_digits hs),
      Text.fieldRuns_append_of_not_blank (not_blank_of_digits hs), ← String.append_assoc]
  rw [parseLine, hfields, parseFields_instr (by decide)
    (Instruction.parse_basic (show Mnemonic.ofName? "SET" = _ from rfl)
      (show Operand.parse "B" = .ok (.reg .b) from rfl)
      (parse_append_digits_bracketed hs (by decide) (by decide)))]

theorem parseLine_target :
    parseLine (":target" ++ s ++ " SET A, 0x0") =
      ⟨[.label ("target" ++ s), .instr (.basic .set (.reg .a) (.inline 0))], none⟩ := by
  have hfields : Text.fields (stripComment (":target" ++ s ++ " SET A, 0x0")) =
      [":" ++ ("target" ++ s), "SET", "A" ++ ",", "0x0"] := by
    simp +decide [Text.fields, stripComment, Text.fieldRuns,
      List.takeWhile_append_of_pos (not_semicolon_of_digits hs),
      Text.fieldRuns_append_of_not_blank (not_blank_of_digits hs), ← String.append_assoc]
  rw [parseLine, hfields, parseFields_label_cons (by simp),
    parseFields_instr (by decide) (Instruction.parse_basic (show Mnemonic.ofName? "SET" = _ from rfl)
      (show Operand.parse "A" = .ok (.reg .a) from rfl)
      (show Operand.parse "0x0" = .ok (.inline 0) from rfl))]
  rfl

end Suffix

/-! ### Reading the program -/

/-- Block `k` reads, line by line, as the block whose labels end in `k`. -/
theorem parseLines_blockLines (k : Nat) :
    parseLines (blockLines k) = ⟨blockItems (toString k), none⟩ := by
  have hs := @isDigit_of_mem_toString k
  apply parseLines_eq_of_forall₂
  simp only [blockLines, blockReading, List.forall₂_cons, List.Forall₂.nil, and_true,
    parseLine_header hs,
    parseLine_jump hs "    SET PC, crash" "crash" 4 (by decide) (by decide) (by decide),
    parseLine_jump hs "    SET PC, loop" "loop" 4 (by decide) (by decide) (by decide),
    parseLine_jump hs "SET PC, crash" "crash" 0 (by decide) (by decide) (by decide),
    parseLine_call_testsub hs, parseLine_testsub hs,
    parseLine_crash hs, parseLine_load_target hs, parseLine_target hs, true_and]
  decide +kernel

theorem program_natCast (n : Nat) : program n = (List.range n).flatMap blockLines := by
  simp [program]

/-- The program of `n` blocks reads as the items of its blocks, one block after another. -/
theorem parseLines_program (n : Nat) :
    parseLines (program n) = ⟨(List.range n).flatMap fun k => blockItems (toString k), none⟩ := by
  rw [program_natCast]
  induction n with
  | zero => rfl
  | succ n ih =>
    have hhalt : (parseLines ((List.range n).flatMap blockLines)).halt = none := by rw [ih]
    rw [List.range_succ, List.flatMap_append, List.flatMap_append, parseLines_append _ hhalt, ih]
    simp [parseLines_blockLines]

/-! ### Labels of the blocks -/

theorem labelDefs_blockItems (s : String) : labelDefs (blockItems s) = blockNames.map (· ++ s) :=
  rfl

/-- Names without digits followed by decimal numerals are equal only when the names are
and the numbers are. -/
theorem append_toString_inj {p q : String} {j k : Nat}
    (hp : p.toList.all (fun c => !c.isDigit) = true) (hq : q.toList.all (fun c => !c.isDigit) = true)
    (h : p ++ toString j = q ++ toString k) : p = q ∧ j = k := by
  have hname : ∀ (r : String) (m : Nat), r.toList.all (fun c => !c.isDigit) = true →
      (r ++ toString m).toList.takeWhile (fun c => !c.isDigit) = r.toList := by
    intro r m hr
    have hne : (toString m).toList ≠ [] := by
      rw [show toString m = Nat.repr m from rfl, Nat.toList_repr]
      exact Nat.toDigits_ne_nil
    obtain ⟨d, ds, hds⟩ := List.exists_cons_of_ne_nil hne
    have hd : d.isDigit = true := isDigit_of_mem_toString d (hds ▸ List.mem_cons_self)
    rw [String.toList_append, List.takeWhile_append_of_pos (by simpa using hr), hds,
      List.takeWhile_cons_of_neg (by simp [hd]), List.append_nil]
  have hpq : p = q := String.toList_inj.mp (by rw [← hname p j hp, ← hname q k hq, h])
  subst hpq
  refine ⟨rfl, ?_⟩
  have hnum := congrArg (fun t : String => Nat.ofDigitChars 10 t.toList 0)
    ((String.append_right_inj p).mp h)
  simpa only [show ∀ m : Nat, toString m = Nat.repr m from fun _ => rfl, Nat.toList_repr,
    Nat.ofDigitChars_ten_toDigits] using hnum

theorem blockNames_no_digit :
    ∀ r ∈ blockNames, r.toList.all (fun c => !c.isDigit) = true := by
  have hall : blockNames.all (fun r => r.toList.all fun c => !c.isDigit) = true := by decide
  simpa using hall

/-- Two blocks define no label in common. -/
theorem not_mem_labelDefs_of_ne {j k : Nat} (hjk : j ≠ k) {l : String}
    (hl : l ∈ labelDefs (blockItems (toString j))) : l ∉ labelDefs (blockItems (toString k)) := by
  rw [labelDefs_blockItems, List.mem_map] at hl ⊢
  obtain ⟨p, hp, rfl⟩ := hl
  rintro ⟨q, hq, heq⟩
  exact hjk (append_toString_inj (blockNames_no_digit p hp) (blockNames_no_digit q hq) heq.symm).2

theorem mem_labelDefs_flatMap {ps : Nat → List Item} {ks : List Nat} {l : String}
    (hl : l ∈ labelDefs (ks.flatMap ps)) : ∃ k ∈ ks, l ∈ labelDefs (ps k) := by
  simp only [labelDefs, List.mem_filterMap, List.mem_flatMap] at hl ⊢
  obtain ⟨x, ⟨k, hk, hx⟩, hdef⟩ := hl
  exact ⟨k, hk, x, hx, hdef⟩

/-! ### Assembling the blocks -/

/-- A block is the block with bare label names, every name followed by the block's suffix. -/
theorem blockItems_eq_map_rename (s : String) :
    blockItems s = (blockItems "").map (Item.rename (· ++ s)) := by
  simp [blockItems, blockReading, Item.rename, Instruction.rename, Operand.rename,
    Payload.rename]

theorem append_left_injective (s : String) : Function.Injective (· ++ s : String → String) :=
  fun _ _ h => (String.append_left_inj s).mp h

/-- Every block assembles to the words of the block with bare label names. -/
theorem assemble_blockItems {W : List Nat} (hW : assemble (blockItems "") = .ok W) (s : String) :
    assemble (blockItems s) = .ok W := by
  rw [blockItems_eq_map_rename]
  exact assemble_map_rename _ (append_left_injective s) hW

theorem Cell.relocate_rename (f : String → String) (k : Nat) (c : Cell) (w : Nat) :
    (c.rename f).relocate k w = c.relocate k w := by
  simp [Cell.relocate, Cell.rename]

/-- Moving the references of a block reads only which cells are references, not their names. -/
theorem zipWith_relocate_blockItems (s : String) (k : Nat) (W : List Nat) :
    List.zipWith (Cell.relocate k) (cells (blockItems s)) W =
      List.zipWith (Cell.relocate k) (cells (blockItems "")) W := by
  rw [blockItems_eq_map_rename, cells_map_rename, List.zipWith_map_left]
  exact congrArg (fun g => List.zipWith g (cells (blockItems "")) W)
    (funext fun c => funext fun w => Cell.relocate_rename _ k c w)

theorem length_zipWith_relocate {W : List Nat} (hW : assemble (blockItems "") = .ok W) (k : Nat) :
    (List.zipWith (Cell.relocate k) (cells (blockItems "")) W).length = W.length := by
  rw [List.length_zipWith, length_cells, ← length_eq_size_of_assemble hW, Nat.min_self]

theorem length_flatMap_range {α : Type} {f : Nat → List α} {c : Nat} (hf : ∀ k, (f k).length = c)
    (n : Nat) : ((List.range n).flatMap f).length = n * c := by
  induction n with
  | zero => simp
  | succ n ih =>
    rw [List.range_succ, List.flatMap_append, List.length_append, ih, List.flatMap_singleton, hf,
      Nat.succ_mul]

theorem length_relocatedBlocks {W : List Nat} (hW : assemble (blockItems "") = .ok W) (n : Nat) :
    ((List.range n).flatMap fun k =>
      List.zipWith (Cell.relocate (k * W.length)) (cells (blockItems "")) W).length =
        n * W.length :=
  length_flatMap_range (fun k => length_zipWith_relocate hW (k * W.length)) n

/-- The program of `n` blocks assembles to the words of one block, repeated: in block `k`
every reference is moved by `k` times the size of a block, and every other word kept. -/
theorem assemble_blocks {W : List Nat} (hW : assemble (blockItems "") = .ok W) (n : Nat) :
    assemble ((List.range n).flatMap fun k => blockItems (toString k)) =
      .ok ((List.range n).flatMap fun k =>
        List.zipWith (Cell.relocate (k * W.length)) (cells (blockItems "")) W) := by
  induction n with
  | zero => rfl
  | succ n ih =>
    have hblock := assemble_blockItems hW (toString n)
    have hdisj : ∀ l ∈ labelDefs ((List.range n).flatMap fun k => blockItems (toString k)),
        l ∉ labelDefs (blockItems (toString n)) := by
      intro l hl
      obtain ⟨k, hk, hlk⟩ := mem_labelDefs_flatMap hl
      exact not_mem_labelDefs_of_ne (Nat.ne_of_lt (List.mem_range.mp hk)) hlk
    rw [List.range_succ, List.flatMap_append, List.flatMap_append, List.flatMap_singleton,
      List.flatMap_singleton, (assemble_eq_ok_iff _ _).mpr ⟨nodup_labelDefs_append ih hblock hdisj,
        mem_labelDefs_append_of_mem_labelRefs ih hblock, (map_resolve_append ih hblock hdisj).symm⟩,
      length_relocatedBlocks hW, zipWith_relocate_blockItems]

end Dcpu16Asm.Bench
