import Mathlib.Tactic.Ring
import Dcpu16Asm.Proofs.BenchmarkBlocks
import Dcpu16Asm.Proofs.DumpLines

/-!
The benchmark runs over the program of `n` blocks, in closed form for every `n ≥ 1`.
Reading gives `38 n` items, from the label `loop0` to a `SET` (`readProgram_eq`).
Assembling gives `48 n` words, from `0x7c01` to `0x8001`; block `k` adds the sum of one
block and its six references moved by `48 k` each (`assembleProgram_eq`). The command
line prints the dump twice, five characters a word, exactly while every address fits in
four hexadecimal digits, that is while `48 n ≤ 0x10000` (`commandLine_eq_iff`). The
module ends with these facts together, stated through the program of one block.
-/

namespace Dcpu16Asm.Bench

open Program Assembly

/-- The words of one block. -/
def blockWords : List Nat :=
  [0x7c01, 0x30, 0x7de1, 0x1000, 0x20, 0x7803, 0x1000, 0xc00d, 0x7dc1, 26, 0xa861, 0x7c01,
   0x2000, 0x2161, 0x2000, 0x8463, 0x806d, 0x7dc1, 0, 0x9031, 0x7c10, 24, 0x7dc1, 26, 0x9037,
   0x61c1, 0x7dc1, 26, 0x0402, 0x2ca4, 0x1445, 0x1c66, 0x9408, 0x7c19, 100, 0x782a, 500,
   0x503b, 200, 0x640c, 0x681e, 0x6c2f, 0x71d1, 0x5c01, 0xab, 0x7811, 47, 0x8001]

theorem assemble_blockItems_bare : assemble (blockItems "") = .ok blockWords := rfl

theorem length_blockWords : blockWords.length = 48 := rfl

/-- The words of block `k`: the six references, to `crash`, `loop`, `testsub`, `crash`,
`crash` and `target`, moved by `m`, every other word as it is. -/
theorem zipWith_relocate_blockWords (m : Nat) :
    List.zipWith (Cell.relocate m) (cells (blockItems "")) blockWords =
      [0x7c01, 0x30, 0x7de1, 0x1000, 0x20, 0x7803, 0x1000, 0xc00d, 0x7dc1, 26 + m, 0xa861,
       0x7c01, 0x2000, 0x2161, 0x2000, 0x8463, 0x806d, 0x7dc1, 0 + m, 0x9031, 0x7c10, 24 + m,
       0x7dc1, 26 + m, 0x9037, 0x61c1, 0x7dc1, 26 + m, 0x0402, 0x2ca4, 0x1445, 0x1c66, 0x9408,
       0x7c19, 100, 0x782a, 500, 0x503b, 200, 0x640c, 0x681e, 0x6c2f, 0x71d1, 0x5c01, 0xab,
       0x7811, 47 + m, 0x8001] :=
  rfl

theorem countP_ref_blockItems :
    (cells (blockItems "")).countP (fun c => c.ref.isSome) = 6 := rfl

/-! ### Lists of blocks -/

theorem foldl_add_eq (x : Nat) (ws : List Nat) : ws.foldl (· + ·) x = x + ws.foldl (· + ·) 0 := by
  induction ws generalizing x with
  | nil => rfl
  | cons w ws ih => rw [List.foldl_cons, List.foldl_cons, ih, ih (0 + w), Nat.zero_add, Nat.add_assoc]

theorem total_cons (w : Nat) (ws : List Nat) : total (w :: ws) = w + total ws := by
  rw [total, List.foldl_cons, foldl_add_eq, Nat.zero_add]
  rfl

theorem total_append (a b : List Nat) : total (a ++ b) = total a + total b := by
  rw [total, List.foldl_append, foldl_add_eq]
  rfl

theorem head?_flatMap_range {α : Type} {f : Nat → List α} {n : Nat} (hn : 1 ≤ n) (h : f 0 ≠ []) :
    ((List.range n).flatMap f).head? = (f 0).head? := by
  obtain ⟨m, rfl⟩ : ∃ m, n = m + 1 := ⟨n - 1, by omega⟩
  rw [List.range_succ_eq_map, List.flatMap_cons, List.head?_append]
  obtain ⟨x, xs, hx⟩ := List.exists_cons_of_ne_nil h
  simp [hx]

theorem getLast?_flatMap_range {α : Type} {f : Nat → List α} {n : Nat} (hn : 1 ≤ n)
    (h : f (n - 1) ≠ []) : ((List.range n).flatMap f).getLast? = (f (n - 1)).getLast? := by
  obtain ⟨m, rfl⟩ : ∃ m, n = m + 1 := ⟨n - 1, by omega⟩
  rw [List.range_succ, List.flatMap_append, List.flatMap_singleton, List.getLast?_append,
    Nat.add_sub_cancel]
  obtain ⟨x, xs, hx⟩ := List.exists_cons_of_ne_nil h
  cases hlast : (f m).getLast? with
  | none => simp_all
  | some y => rfl

/-! ### Reading -/

theorem length_blockItems (s : String) : (blockItems s).length = 38 := rfl

/-- Reading the program of `n ≥ 1` blocks gives `38 n` items, from the label `loop0` to an
instruction `SET`. -/
theorem readProgram_eq (n : Nat) (hn : 1 ≤ n) : readProgram n = some ⟨n * 38, "loop0", "SET"⟩ := by
  have hhead : ((List.range n).flatMap fun k => blockItems (toString k)).head? =
      some (.label "loop0") := by
    rw [head?_flatMap_range hn (by simp [blockItems, blockReading])]
    rfl
  have hlast : ((List.range n).flatMap fun k => blockItems (toString k)).getLast? =
      some (.instr (.basic .set (.reg .a) (.inline 0))) := by
    rw [getLast?_flatMap_range hn (by simp [blockItems, blockReading])]
    rfl
  unfold readProgram
  rw [parseLines_program]
  simp only [hhead, hlast, length_flatMap_range fun k => length_blockItems (toString k)]
  rfl

/-! ### Assembling -/

/-- The words of the program of `n` blocks: block `k` is the words of one block with its
references moved by `48 k`. -/
def programWords (n : Nat) : List Nat :=
  (List.range n).flatMap fun k =>
    List.zipWith (Cell.relocate (k * 48)) (cells (blockItems "")) blockWords

/-- The program of `n` blocks assembles to `n` copies of the block's words, the references
of block `k` moved by `48 k`. -/
theorem assembleLines_program (n : Nat) : assembleLines (program n) = .ok (programWords n) := by
  have hread := parseLines_program n
  rw [assembleLines_eq_assemble _ (by rw [hread]), hread]
  exact assemble_blocks assemble_blockItems_bare n

theorem length_programWords (n : Nat) : (programWords n).length = n * 48 :=
  length_relocatedBlocks assemble_blockItems_bare n

theorem head?_programWords {n : Nat} (hn : 1 ≤ n) : (programWords n).head? = some 0x7c01 := by
  rw [programWords, head?_flatMap_range hn (by simp [zipWith_relocate_blockWords]),
    zipWith_relocate_blockWords]
  rfl

theorem getLast?_programWords {n : Nat} (hn : 1 ≤ n) : (programWords n).getLast? = some 0x8001 := by
  rw [programWords, getLast?_flatMap_range hn (by simp [zipWith_relocate_blockWords]),
    zipWith_relocate_blockWords]
  rfl

/-- Moving the references of a program by `m` adds `m` once per reference to the sum of
its words. -/
theorem total_zipWith_relocate (m : Nat) : ∀ (cs : List Cell) (ws : List Nat),
    cs.length = ws.length →
      total (List.zipWith (Cell.relocate m) cs ws) =
        total ws + m * cs.countP (fun c => c.ref.isSome)
  | [], [], _ => rfl
  | c :: cs, w :: ws, h => by
    have ih := total_zipWith_relocate m cs ws (by simpa using h)
    rw [List.zipWith_cons_cons, total_cons, total_cons, ih, List.countP_cons]
    unfold Cell.relocate
    cases c.ref.isSome
    · simp only [Bool.false_eq_true, if_false, Nat.add_zero]
      omega
    · simp only [if_true]
      ring

theorem total_relocate (m : Nat) :
    total (List.zipWith (Cell.relocate m) (cells (blockItems "")) blockWords) =
      total blockWords + 6 * m := by
  rw [total_zipWith_relocate m _ _ rfl, countP_ref_blockItems, Nat.mul_comm]

/-- Block `k` adds the sum of one block and its six references moved by `48 k`. -/
theorem total_programWords (n : Nat) :
    total (programWords n) = n * total blockWords + 144 * (n * (n - 1)) := by
  induction n with
  | zero => rfl
  | succ n ih =>
    rw [programWords, List.range_succ, List.flatMap_append, total_append, ← programWords, ih,
      List.flatMap_singleton, total_relocate]
    have htri : (n + 1) * (n + 1 - 1) = n * (n - 1) + 2 * n := by
      cases n with
      | zero => rfl
      | succ n =>
        simp only [Nat.add_sub_cancel]
        ring
    rw [htri]
    ring

/-- The summary of assembling the program of `n ≥ 1` blocks. -/
theorem assembleProgram_eq (n : Nat) (hn : 1 ≤ n) :
    assembleProgram n = some ⟨n * 48, 0x7c01, 0x8001,
      (n * total blockWords + 6 * 48 * n * (n - 1) / 2) % 0x10000⟩ := by
  have hsum : 6 * 48 * n * (n - 1) / 2 = 144 * (n * (n - 1)) := by
    rw [show 6 * 48 * n * (n - 1) = 2 * (144 * (n * (n - 1))) by ring]
    omega
  unfold assembleProgram
  rw [assembleLines_program]
  simp only [head?_programWords hn, getLast?_programWords hn, length_programWords,
    total_programWords, hsum]

/-- Every word of a block is below `0xc00e`, except its references, which are at most `47`
before they are moved. -/
theorem le_of_mem_relocated {m w : Nat}
    (h : w ∈ List.zipWith (Cell.relocate m) (cells (blockItems "")) blockWords) :
    w ≤ 0xc00d ∨ w ≤ 47 + m := by
  rw [zipWith_relocate_blockWords] at h
  simp only [List.mem_cons, List.not_mem_nil, or_false] at h
  omega

/-- The largest word of the program of `n ≥ 1` blocks is the reference to `target` of its last
block, `48 n - 1`, so every word is below `0x10000` exactly when `48 n ≤ 0x10000`. -/
theorem forall_programWords_lt_iff {n : Nat} (hn : 1 ≤ n) :
    (∀ w ∈ programWords n, w < 0x10000) ↔ n * 48 ≤ 0x10000 := by
  constructor
  · intro h
    have hlast : 47 + (n - 1) * 48 ∈ programWords n := by
      refine List.mem_flatMap.mpr ⟨n - 1, List.mem_range.mpr (by omega), ?_⟩
      rw [zipWith_relocate_blockWords]
      simp
    have := h _ hlast
    omega
  · intro h w hw
    obtain ⟨k, hk, hw⟩ := List.mem_flatMap.mp hw
    have hk := List.mem_range.mp hk
    rcases le_of_mem_relocated hw with hw | hw <;> omega

/-! ### The command line -/

theorem lineBreak_not_mem_blockLines (k : Nat) :
    ∀ l ∈ blockLines k, '\n' ∉ l.toList ∧ '\r' ∉ l.toList := by
  have hk : '\n' ∉ (toString k).toList ∧ '\r' ∉ (toString k).toList :=
    ⟨fun h => absurd (isDigit_of_mem_toString _ h) (by decide),
      fun h => absurd (isDigit_of_mem_toString _ h) (by decide)⟩
  simp only [blockLines, List.forall_mem_cons, String.toList_append, List.mem_append, not_or]
  generalize (toString k).toList = ds at hk ⊢
  simp +decide [hk]

theorem lineBreak_not_mem_program (n : Nat) :
    ∀ l ∈ program n, '\n' ∉ l.toList ∧ '\r' ∉ l.toList := by
  intro l hl
  rw [program_natCast] at hl
  obtain ⟨k, -, hl⟩ := List.mem_flatMap.mp hl
  exact lineBreak_not_mem_blockLines k l hl

/-- A dump that starts with the word `0x7c01` starts with the characters `7c01`. -/
theorem take_four_render_append {ws : List Nat} (hws : ws.head? = some 0x7c01) (r : String) :
    String.ofList ((HexDump.render ws ++ r).toList.take 4) = "7c01" := by
  obtain ⟨ws, rfl⟩ := List.head?_eq_some_iff.mp hws
  rw [HexDump.render_cons, String.toList_append, String.toList_append, List.append_assoc,
    show (HexDump.line 0x7c01).toList = ['7', 'c', '0', '1', '\n'] by decide]
  rfl

/-- The command line run on the program of `n ≥ 1` blocks: both outputs are the dump of the
program's words, so the output has twice the dump's length and one line per word twice. -/
theorem commandLine_eq (n : Nat) (hn : 1 ≤ n) :
    commandLine n =
      ⟨2 * (HexDump.render (programWords n)).length, "7c01", 2 * n * 48⟩ := by
  have hls := lineBreak_not_mem_program n
  have hW := assembleLines_program n
  simp only [commandLine, Command.run_file_join hls hW, Command.run_stdin_join hls hW,
    Except.toOption, Option.getD_some]
  rw [take_four_render_append (head?_programWords hn)]
  simp only [String.length_append, String.toList_append, List.count_append,
    HexDump.count_lineFeed_render, length_programWords]
  congr 1 <;> omega

/-- The command line prints five characters a word, twice, exactly while every address of
the program of `n ≥ 1` blocks fits in four hexadecimal digits. -/
theorem commandLine_eq_iff (n : Nat) (hn : 1 ≤ n) :
    commandLine n = ⟨10 * n * 48, "7c01", 2 * n * 48⟩ ↔ n * 48 ≤ 0x10000 := by
  rw [commandLine_eq n hn, ← forall_programWords_lt_iff hn, ← HexDump.length_render_eq_iff,
    length_programWords]
  constructor
  · intro h
    have := congrArg CommandSummary.length h
    simp only at this
    omega
  · intro h
    rw [h]
    congr 1
    ring

/-! ### The closed form -/

theorem parseLines_program_one : (parseLines (program 1)).items = blockItems "0" := by
  show (parseLines (program ((1 : Nat) : Int))).items = _
  rw [parseLines_program]
  rfl

theorem programWords_one : programWords 1 = blockWords := by
  rw [programWords, List.range_one, List.flatMap_singleton, zipWith_relocate_blockWords]
  rfl

/-- The benchmark program of every size `n ≥ 1` in closed form, in terms of the program of
one block: its `m = 38` items, its words `B`, `48` of them from `0x7c01` to `0x8001`, and the
number `R = 6` of its words that are references. Reading gives `n m` items from `loop0` to a
`SET`; assembling gives `B` repeated `n` times with the references of copy `k` moved by
`k |B|`, so the checksum is `n Σ B + R |B| n (n - 1) / 2` modulo `0x10000`; and the command
line prints `10 n |B|` characters in `2 n |B|` lines exactly while `n |B| ≤ 0x10000`. -/
theorem benchmark_closed_form (n : Nat) (hn : 1 ≤ n) :
    ∃ B : List Nat, assembleLines (program 1) = .ok B ∧
      B.length = 48 ∧ B.head? = some 0x7c01 ∧ B.getLast? = some 0x8001 ∧
      (parseLines (program 1)).items.length = 38 ∧
      (cells (parseLines (program 1)).items).countP (fun c => c.ref.isSome) = 6 ∧
      readProgram n = some ⟨n * (parseLines (program 1)).items.length, "loop0", "SET"⟩ ∧
      assembleLines (program n) = .ok ((List.range n).flatMap fun k =>
        List.zipWith (Cell.relocate (k * B.length)) (cells (parseLines (program 1)).items) B) ∧
      assembleProgram n = some ⟨n * B.length, 0x7c01, 0x8001,
        (n * total B + (cells (parseLines (program 1)).items).countP (fun c => c.ref.isSome) *
          B.length * n * (n - 1) / 2) % 0x10000⟩ ∧
      (commandLine n = ⟨10 * n * B.length, "7c01", 2 * n * B.length⟩ ↔
        n * B.length ≤ 0x10000) := by
  have hcount : (cells (blockItems "0")).countP (fun c => c.ref.isSome) = 6 := rfl
  have hwords : ((List.range n).flatMap fun k =>
      List.zipWith (Cell.relocate (k * 48)) (cells (blockItems "0")) blockWords) =
        programWords n := by
    simp only [programWords, zipWith_relocate_blockItems]
  refine ⟨blockWords, ?_⟩
  rw [parseLines_program_one, hcount, length_blockWords, hwords]
  exact ⟨(assembleLines_program 1).trans (congrArg _ programWords_one), rfl, rfl, rfl,
    length_blockItems "0", rfl, readProgram_eq n hn, assembleLines_program n,
    assembleProgram_eq n hn, commandLine_eq_iff n hn⟩

/-- The command line's output has five characters a word up to `1365` blocks, the last size
whose `65520` words all have four-digit addresses, and not from `1366` blocks on. -/
theorem commandLine_last_fitting_size :
    commandLine 1365 = ⟨655200, "7c01", 131040⟩ ∧ commandLine 1366 ≠ ⟨655680, "7c01", 131136⟩ := by
  obtain ⟨B, -, hB, -, -, -, -, -, -, -, hfits⟩ := benchmark_closed_form 1365 (by decide)
  obtain ⟨B', -, hB', -, -, -, -, -, -, -, hover⟩ := benchmark_closed_form 1366 (by decide)
  rw [hB] at hfits
  rw [hB'] at hover
  exact ⟨hfits.mpr (by decide), fun h => absurd (hover.mp h) (by decide)⟩

end Dcpu16Asm.Bench
