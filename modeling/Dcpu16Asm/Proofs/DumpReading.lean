import Dcpu16Asm.Proofs.DumpLines
import Dcpu16Asm.Proofs.LineReading
import Dcpu16Asm.Literal

/-!
Reading the hex dump back. A dump of words is a text of one line per word, each ended
by a line feed; the line of a word is lowercase hexadecimal digits that read back as
the word, four of them when the word fits in sixteen bits and otherwise as many as it
needs, with no leading zero (`IsLineOf`, `IsDumpOf`). Every such text reads back as its
words (`read_eq_of_isDumpOf`), and the printed dump is one (`isDumpOf_render`). So what
the command prints for a program that assembles gives back its words, and for one that
does not it prints nothing (`Command.run_prints_dump`).
-/

namespace Dcpu16Asm.HexDump

/-- A lowercase hexadecimal digit: `0`–`9` or `a`–`f`. -/
def IsLowerHexDigit (c : Char) : Prop := ('0' ≤ c ∧ c ≤ '9') ∨ ('a' ≤ c ∧ c ≤ 'f')

instance : DecidablePred IsLowerHexDigit := fun _ => inferInstanceAs (Decidable (_ ∨ _))

/-- The value of a numeral of hexadecimal digits in either case, most significant first;
`none` for text that is empty or holds anything else. -/
def readNumeral? (cs : List Char) : Option Nat :=
  if cs = [] then none else (cs.mapM Literal.hexDigitValue?).map (Literal.digitsValue 16)

/-- Reads a dump back: the text is cut at each line feed, the piece after the last line
feed must be empty, and each line before it is read as a hexadecimal numeral. -/
def read (out : String) : Option (List Nat) :=
  let pieces := out.toList.splitOn '\n'
  if pieces.getLast? = some [] then pieces.dropLast.mapM readNumeral? else none

/-- The line of a word: lowercase hexadecimal digits that read back as the word, four of
them when the word fits in sixteen bits, and otherwise no leading zero. -/
structure IsLineOf (w : Nat) (t : List Char) : Prop where
  lowerHex : ∀ c ∈ t, IsLowerHexDigit c
  value : readNumeral? t = some w
  length_eq_four_iff : t.length = 4 ↔ w < 0x10000
  head_ne_zero : 4 < t.length → t.head? ≠ some '0'

/-- A dump of the words `W`: one line for each word, in order, each ended by a line feed. -/
def IsDumpOf (W : List Nat) (out : String) : Prop :=
  ∃ ls, out.toList.splitOn '\n' = ls ++ [[]] ∧ List.Forall₂ IsLineOf W ls

/-! ### The digits of a word -/

theorem isLowerHexDigit_digitChar : ∀ d, d < 16 → IsLowerHexDigit d.digitChar := by decide

theorem hexDigitValue?_digitChar : ∀ d, d < 16 → Literal.hexDigitValue? d.digitChar = some d := by
  decide

theorem head?_hexDigits {w : Nat} (hw : 0 < w) : (Text.hexDigits w).head? ≠ some '0' := by
  induction w using Nat.base_induction 16 (by decide) with
  | single k hk =>
    rw [hexDigits_of_lt hk]
    simpa using Nat.pos_iff_ne_zero.mp hw
  | digit m k hk hm ih =>
    have hne : Text.hexDigits m ≠ [] := Nat.toDigits_ne_nil
    obtain ⟨a, as, has⟩ := List.ne_nil_iff_exists_cons.mp hne
    have hlead := ih hm
    rw [has] at hlead
    rw [hexDigits_digit hm hk, has]
    exact hlead

/-! ### Reading a line back -/

theorem digitsValue_append_digit (ds : List Nat) (d : Nat) :
    Literal.digitsValue 16 (ds ++ [d]) = Literal.digitsValue 16 ds * 16 + d := by
  simp [Literal.digitsValue, List.foldl_append]

/-- Leading zeros do not change a numeral's value. -/
theorem digitsValue_zeros_append (n : Nat) (ds : List Nat) :
    Literal.digitsValue 16 (List.replicate n 0 ++ ds) = Literal.digitsValue 16 ds := by
  have hzeros : (List.replicate n 0).foldl (fun acc d => acc * 16 + d) 0 = 0 := by
    induction n with
    | zero => rfl
    | succ n ih => simpa [List.replicate_succ] using ih
  simp only [Literal.digitsValue, List.foldl_append, hzeros]

theorem mapM_zeros (n : Nat) :
    (List.replicate n '0').mapM Literal.hexDigitValue? = some (List.replicate n 0) := by
  induction n with
  | zero => rfl
  | succ n ih =>
    have hzero : Literal.hexDigitValue? '0' = some 0 := by decide
    simp [List.replicate_succ, List.mapM_cons, hzero, ih]

/-- The digits of a numeral read back, one by one, to digits of the number's value. -/
theorem mapM_hexDigits (w : Nat) :
    ∃ ds, (Text.hexDigits w).mapM Literal.hexDigitValue? = some ds ∧
      Literal.digitsValue 16 ds = w := by
  induction w using Nat.base_induction 16 (by decide) with
  | single k hk =>
    refine ⟨[k], ?_, by simp [Literal.digitsValue]⟩
    simp [hexDigits_of_lt hk, hexDigitValue?_digitChar k hk]
  | digit m k hk hm ih =>
    obtain ⟨ds, hds, hval⟩ := ih
    refine ⟨ds ++ [k], ?_, ?_⟩
    · simp [hexDigits_digit hm hk, List.mapM_append, hds, hexDigitValue?_digitChar k hk]
    · rw [digitsValue_append_digit, hval]
      omega

theorem toList_hexPadded (w : Nat) :
    (Text.hexPadded 4 w).toList =
      List.replicate (4 - (Text.hexDigits w).length) '0' ++ Text.hexDigits w := by
  simp [Text.hexPadded]

/-- A padded numeral reads back as its number. -/
theorem readNumeral?_hexPadded (w : Nat) : readNumeral? (Text.hexPadded 4 w).toList = some w := by
  obtain ⟨ds, hds, hval⟩ := mapM_hexDigits w
  have hne : (Text.hexPadded 4 w).toList ≠ [] := by
    simp [toList_hexPadded, Text.hexDigits]
  rw [readNumeral?, if_neg hne, toList_hexPadded, List.mapM_append, mapM_zeros, hds]
  simp [digitsValue_zeros_append, hval]

/-- The printed line of a word is its line: padding adds zeros only up to four digits. -/
theorem isLineOf_hexPadded (w : Nat) : IsLineOf w (Text.hexPadded 4 w).toList := by
  have hdigits := length_hexDigits_le_four_iff w
  refine ⟨fun c hc => ?_, readNumeral?_hexPadded w, ?_, fun hlong => ?_⟩
  · rw [toList_hexPadded, List.mem_append, List.mem_replicate] at hc
    rcases hc with ⟨-, rfl⟩ | hc
    · decide
    · obtain ⟨d, hd, rfl⟩ := mem_hexDigits hc
      exact isLowerHexDigit_digitChar d hd
  · rw [toList_hexPadded, List.length_append, List.length_replicate]
    omega
  · rw [toList_hexPadded, List.length_append, List.length_replicate] at hlong
    have hpad : 4 - (Text.hexDigits w).length = 0 := by omega
    rw [toList_hexPadded, hpad, List.replicate_zero, List.nil_append]
    exact head?_hexDigits (by omega)

theorem lineFeed_not_mem_of_isLineOf {w : Nat} {t : List Char} (h : IsLineOf w t) : '\n' ∉ t :=
  fun hmem => absurd (h.lowerHex _ hmem) (by decide)

/-! ### Reading the dump back -/

/-- The dump cut at its line feeds gives the line of each word, and nothing after the
last line feed. -/
theorem splitOn_render (W : List Nat) :
    (render W).toList.splitOn '\n' = W.map (fun w => (Text.hexPadded 4 w).toList) ++ [[]] := by
  induction W with
  | nil => exact List.splitOn_nil '\n'
  | cons w W ih =>
    have hline : (render (w :: W)).toList =
        (Text.hexPadded 4 w).toList ++ '\n' :: (render W).toList := by
      simp [render_cons, line]
    rw [hline, List.splitOn_append_cons_self_of_not_mem
      (lineFeed_not_mem_of_isLineOf (isLineOf_hexPadded w)), ih]
    rfl

theorem isDumpOf_render (W : List Nat) : IsDumpOf W (render W) := by
  refine ⟨_, splitOn_render W, ?_⟩
  induction W with
  | nil => exact List.Forall₂.nil
  | cons w W ih => exact List.Forall₂.cons (isLineOf_hexPadded w) ih

theorem mapM_readNumeral? {W : List Nat} {ls : List (List Char)}
    (h : List.Forall₂ IsLineOf W ls) : ls.mapM readNumeral? = some W := by
  induction h with
  | nil => rfl
  | cons hline _ ih => simp [List.mapM_cons, hline.value, ih]

/-- Every dump reads back as the words it was written from. -/
theorem read_eq_of_isDumpOf {W : List Nat} {out : String} (h : IsDumpOf W out) :
    read out = some W := by
  obtain ⟨ls, hsplit, hlines⟩ := h
  rw [read, hsplit, List.getLast?_concat, if_pos rfl, List.dropLast_concat]
  exact mapM_readNumeral? hlines

end Dcpu16Asm.HexDump

namespace Dcpu16Asm.Command

theorem run_error_of_programLines {args : List String} {console : Console} {ls : List String}
    {e : AsmError} (hlines : programLines args console = .ok ls)
    (h : Assembly.assembleLines ls = .error e) : run args console = .error (.assembly e) := by
  rw [run, hlines]
  simp only [bind, Except.bind, h]

/-- What the command prints for program lines that assemble is a dump of their words,
which reads back as those words; for lines that do not assemble it prints nothing and
fails with the assembler's failure. -/
theorem run_prints_dump {args : List String} {console : Console} {lines : List String}
    (hlines : programLines args console = .ok lines) :
    (∀ W, Assembly.assembleLines lines = .ok W →
      ∃ out, run args console = .ok out ∧ HexDump.IsDumpOf W out ∧ HexDump.read out = some W) ∧
    (∀ e, Assembly.assembleLines lines = .error e → run args console = .error (.assembly e)) := by
  refine ⟨fun W hW => ?_, fun e he => run_error_of_programLines hlines he⟩
  have hdump := HexDump.isDumpOf_render W
  exact ⟨_, run_of_programLines hlines hW, hdump, HexDump.read_eq_of_isDumpOf hdump⟩

/-- A program given on standard input. -/
theorem run_prints_dump_stdin :
    programLines [] ⟨[":x JSR x"], []⟩ = .ok [":x JSR x"] ∧
      (∀ W, Assembly.assembleLines [":x JSR x"] = .ok W →
        ∃ out, run [] ⟨[":x JSR x"], []⟩ = .ok out ∧ HexDump.IsDumpOf W out ∧
          HexDump.read out = some W) ∧
      (∀ e, Assembly.assembleLines [":x JSR x"] = .error e →
        run [] ⟨[":x JSR x"], []⟩ = .error (.assembly e)) :=
  ⟨rfl, run_prints_dump rfl⟩

end Dcpu16Asm.Command
