import Mathlib.Data.List.Forall2
import Mathlib.Data.List.TakeWhile
import Dcpu16Asm.Command
import Dcpu16Asm.Proofs.OperandForms
import Dcpu16Asm.Proofs.Streaming

/-!
Reading lines whose text is known only in part. A run of characters that are not blank
stays inside the field it stands in (`fieldRuns_append_of_not_blank`), so the fields of a
line can be read off its known characters whatever the others are, as long as they are
not blank. A lowercase letter followed by word characters names a label
(`IsLabelName.of_lower`); decimal digits are such characters.

A line feed at the end of a line changes none of its items (`parseLine_append_lineFeed`),
and a text made of lines, each ended by a line feed, is cut back into those lines under
every convention of line breaks (`lines_join`): the command prints the same dump for such a
text whether it reads it from a file or from standard input (`Command.run_file_join`,
`Command.run_stdin_join`).
-/

namespace Dcpu16Asm

namespace Text

/-! ### Fields -/

/-- Characters that are not blank join the field being read. -/
theorem fieldRuns_append_of_not_blank {w : List Char} (hw : ∀ c ∈ w, isBlank c = false)
    (cur rest : List Char) : fieldRuns cur (w ++ rest) = fieldRuns (w.reverse ++ cur) rest := by
  induction w generalizing cur with
  | nil => rfl
  | cons c w ih =>
    rw [List.cons_append, fieldRuns, if_neg (by simp [hw c List.mem_cons_self]),
      ih fun d hd => hw d (List.mem_cons_of_mem c hd)]
    simp

theorem fieldRuns_of_not_blank {w : List Char} (hw : ∀ c ∈ w, isBlank c = false)
    (cur : List Char) : fieldRuns cur w = fieldRuns (w.reverse ++ cur) [] := by
  simpa using fieldRuns_append_of_not_blank hw cur []

/-- A text with no blank in it is one field. -/
theorem fieldRuns_single {w : List Char} (hw : ∀ c ∈ w, isBlank c = false) (hne : w ≠ []) :
    fieldRuns [] w = [w] := by
  rw [fieldRuns_of_not_blank hw]
  simp [fieldRuns, hne]

/-- Leading spaces separate nothing. -/
theorem fieldRuns_spaces (n : Nat) (rest : List Char) :
    fieldRuns [] (List.replicate n ' ' ++ rest) = fieldRuns [] rest := by
  induction n with
  | zero => rfl
  | succ n ih =>
    rw [List.replicate_succ, List.cons_append, fieldRuns, if_pos (by decide),
      if_pos List.isEmpty_nil, ih]

/-- A blank at the end of a text only ends the last field. -/
theorem fieldRuns_append_blank {c : Char} (hc : isBlank c = true) (cur cs : List Char) :
    fieldRuns cur (cs ++ [c]) = fieldRuns cur cs := by
  induction cs generalizing cur with
  | nil => simp [fieldRuns, hc]
  | cons d cs ih => simp only [List.cons_append, fieldRuns, ih]

/-- No character from `!` up to U+0084 is blank. -/
theorem isBlank_of_visible {c : Char} (hlo : 0x21 ≤ c.toNat) (hhi : c.toNat < 0x85) :
    isBlank c = false := by
  cases hb : isBlank c with
  | false => rfl
  | true =>
    obtain ⟨r, hr, hrlo, hrhi⟩ := (CodeRanges.covers_iff _ _).mp hb
    simp only [blankRanges, List.mem_cons, List.not_mem_nil, or_false] at hr
    rcases hr with rfl | rfl | rfl | rfl | rfl | rfl | rfl | rfl | rfl | rfl <;> omega

theorem isBlank_of_isDigit {c : Char} (h : c.isDigit = true) : isBlank c = false := by
  rw [Char.isDigit_iff_toNat] at h
  have hzero : '0'.toNat = 48 := rfl
  have hnine : '9'.toNat = 57 := rfl
  exact isBlank_of_visible (by omega) (by omega)

theorem isWordChar_of_isDigit {c : Char} (h : c.isDigit = true) : isWordChar c = true := by
  rw [Char.isDigit_iff_toNat] at h
  exact (CodeRanges.covers_iff _ _).mpr ⟨(0x30, 0x39), List.mem_cons_self, h⟩

theorem isWordChar_of_lower {c : Char} (h : 97 ≤ c.toNat ∧ c.toNat ≤ 122) :
    isWordChar c = true :=
  (CodeRanges.covers_iff _ _).mpr ⟨(0x61, 0x7A), by
    unfold wordCharRanges
    exact List.mem_cons_of_mem _ (List.mem_cons_of_mem _ (List.mem_cons_of_mem _ List.mem_cons_self)),
    h⟩

/-- No lowercase letter of the Latin alphabet is a decimal digit of any script. -/
theorem digitValue?_of_lower {c : Char} (h : 97 ≤ c.toNat ∧ c.toNat ≤ 122) :
    digitValue? c = none := by
  have hall : ∀ n < 123, 97 ≤ n →
      decimalDigitRanges.find? (fun r => r.1 ≤ n && n ≤ r.2) = none := by decide
  simp [digitValue?, CodeRanges.rangeOf?, hall c.toNat (by omega) h.1]

/-! ### Lines -/

theorem LineBreaks.endsAfter_lineFeed (p : LineBreaks) (next : Option Char) :
    p.endsAfter '\n' next = true := by
  cases p <;> rfl

theorem LineBreaks.endsAfter_of_ne {c : Char} (hlf : c ≠ '\n') (hcr : c ≠ '\r') (p : LineBreaks)
    (next : Option Char) : p.endsAfter c next = false := by
  cases p <;> simp [LineBreaks.endsAfter, hlf, hcr]

theorem unifyBreaks_cons_of_ne {c : Char} (hc : c ≠ '\r') (cs : List Char) :
    unifyBreaks (c :: cs) = c :: unifyBreaks cs := by
  cases cs with
  | nil => simp [unifyBreaks]
  | cons d cs => simp [unifyBreaks, hc]

theorem unifyBreaks_of_not_mem {cs : List Char} (h : '\r' ∉ cs) : unifyBreaks cs = cs := by
  induction cs with
  | nil => rfl
  | cons c cs ih =>
    rw [unifyBreaks_cons_of_ne (fun hc => h (hc ▸ List.mem_cons_self)),
      ih fun hm => h (List.mem_cons_of_mem c hm)]

/-- A line without breaks, ended by a line feed, is cut as one line. -/
theorem cutLines_append_lineFeed (p : LineBreaks) {l : List Char} (hlf : '\n' ∉ l)
    (hcr : '\r' ∉ l) (cur rest : List Char) :
    cutLines p.endsAfter cur (l ++ '\n' :: rest) =
      (cur.reverse ++ l ++ ['\n']) :: cutLines p.endsAfter [] rest := by
  induction l generalizing cur with
  | nil => simp [cutLines, LineBreaks.endsAfter_lineFeed]
  | cons c l ih =>
    have hc : p.endsAfter c (l ++ '\n' :: rest).head? = false :=
      LineBreaks.endsAfter_of_ne (fun h => hlf (h ▸ List.mem_cons_self))
        (fun h => hcr (h ▸ List.mem_cons_self)) p _
    rw [List.cons_append, cutLines, hc, if_neg Bool.false_ne_true,
      ih (fun h => hlf (List.mem_cons_of_mem c h)) (fun h => hcr (List.mem_cons_of_mem c h))]
    simp

/-- Lines without breaks, each ended by a line feed and joined, are cut back into those
lines under every convention. -/
theorem lines_join (p : LineBreaks) (ls : List String)
    (h : ∀ l ∈ ls, '\n' ∉ l.toList ∧ '\r' ∉ l.toList) :
    p.lines (String.join (ls.map (· ++ "\n"))) = ls.map (· ++ "\n") := by
  have hchars : (String.join (ls.map (· ++ "\n"))).toList = ls.flatMap (·.toList ++ ['\n']) := by
    simp [String.toList_join, List.flatMap_map]
  have hcut : ∀ ms : List String, (∀ l ∈ ms, '\n' ∉ l.toList ∧ '\r' ∉ l.toList) →
      cutLines p.endsAfter [] (ms.flatMap (·.toList ++ ['\n'])) =
        ms.map (·.toList ++ ['\n']) := by
    intro ms hms
    induction ms with
    | nil => rfl
    | cons l ms ih =>
      obtain ⟨hlf, hcr⟩ := hms l List.mem_cons_self
      rw [List.flatMap_cons, List.append_assoc, List.singleton_append,
        cutLines_append_lineFeed p hlf hcr, ih fun m hm => hms m (List.mem_cons_of_mem l hm)]
      simp
  have hnocr : '\r' ∉ ls.flatMap (·.toList ++ ['\n']) := by
    simp only [List.mem_flatMap, List.mem_append, List.mem_singleton, not_exists, not_and]
    intro l hl hm
    rcases hm with hm | hm
    · exact (h l hl).2 hm
    · exact absurd hm (by decide)
  have hcs : (if p = .unified then unifyBreaks (ls.flatMap (·.toList ++ ['\n']))
      else ls.flatMap (·.toList ++ ['\n'])) = ls.flatMap (·.toList ++ ['\n']) := by
    split <;> simp [unifyBreaks_of_not_mem hnocr]
  unfold LineBreaks.lines
  dsimp only
  rw [hchars, hcs, hcut ls h, List.map_map]
  apply List.map_congr_left
  intro l _
  simp [String.ofList_append]

end Text

/-! ### Reading lines one after another -/

theorem parseLines_cons_of_halt_eq_none {l : String} (ls : List String)
    (h : (parseLine l).halt = none) :
    parseLines (l :: ls) = ⟨(parseLine l).items ++ (parseLines ls).items, (parseLines ls).halt⟩ := by
  simp [parseLines, Parsed.andThen, h]

/-- Lines read without failure are followed by the items of the lines after them. -/
theorem parseLines_append {ls : List String} (ms : List String)
    (h : (parseLines ls).halt = none) :
    parseLines (ls ++ ms) =
      ⟨(parseLines ls).items ++ (parseLines ms).items, (parseLines ms).halt⟩ := by
  induction ls with
  | nil => rfl
  | cons l ls ih =>
    have hl : (parseLine l).halt = none := by
      cases hl : (parseLine l).halt with
      | none => rfl
      | some e => simp [parseLines, Parsed.andThen, hl] at h
    rw [parseLines_cons_of_halt_eq_none ls hl] at h
    rw [List.cons_append, parseLines_cons_of_halt_eq_none _ hl, ih h,
      parseLines_cons_of_halt_eq_none ls hl, List.append_assoc]

/-! ### Reading a line with a line feed -/

/-- The fields of a line without its comment do not change with a line feed at its end. -/
theorem fields_stripComment_append_lineFeed (l : String) :
    Text.fields (stripComment (l ++ "\n")) = Text.fields (stripComment l) := by
  simp only [Text.fields, stripComment, String.toList_append, String.toList_ofList]
  rw [List.takeWhile_append]
  split
  · rename_i hlen
    have hall : l.toList.takeWhile (· ≠ ';') = l.toList :=
      (List.takeWhile_prefix _).eq_of_length hlen
    have hfeed : ("\n" : String).toList.takeWhile (· ≠ ';') = ['\n'] := by decide
    rw [hall, hfeed, Text.fieldRuns_append_blank (by decide)]
  · rfl

theorem parseLine_append_lineFeed (l : String) : parseLine (l ++ "\n") = parseLine l := by
  rw [parseLine, parseLine, fields_stripComment_append_lineFeed]

theorem parseLines_map_append_lineFeed (ls : List String) :
    parseLines (ls.map (· ++ "\n")) = parseLines ls := by
  induction ls with
  | nil => rfl
  | cons l ls ih => simp only [List.map_cons, parseLines, parseLine_append_lineFeed, ih]

theorem Assembly.assembleLines_map_append_lineFeed (ls : List String) :
    Assembly.assembleLines (ls.map (· ++ "\n")) = Assembly.assembleLines ls := by
  rw [Assembly.assembleLines_eq, Assembly.assembleLines_eq, parseLines_map_append_lineFeed]

/-! ### The command reading lines -/

namespace Command

variable {ls : List String} {W : List Nat}

/-- The command prints the dump of the words that the lines it selects assemble to. -/
theorem run_of_programLines {args : List String} {console : Console}
    (hlines : programLines args console = .ok ls) (h : Assembly.assembleLines ls = .ok W) :
    run args console = .ok (HexDump.render W) := by
  rw [run, hlines]
  simp only [bind, Except.bind, h]

/-- A file of lines, each ended by a line feed, is read back as those lines. -/
theorem run_file_join (hls : ∀ l ∈ ls, '\n' ∉ l.toList ∧ '\r' ∉ l.toList)
    (h : Assembly.assembleLines ls = .ok W) (path : String) (stdin : List String) :
    run [path] ⟨stdin, [(path, String.join (ls.map (· ++ "\n")))]⟩ = .ok (HexDump.render W) := by
  refine run_of_programLines ?_ ((Assembly.assembleLines_map_append_lineFeed ls).trans h)
  simp only [programLines, List.lookup_cons_self, Text.lines_join _ ls hls]

/-- Standard input that delivers the lines of such a text, each with its line feed. -/
theorem run_stdin_join (hls : ∀ l ∈ ls, '\n' ∉ l.toList ∧ '\r' ∉ l.toList)
    (h : Assembly.assembleLines ls = .ok W) (files : List (String × String)) :
    run [] ⟨Text.LineBreaks.lineFeed.lines (String.join (ls.map (· ++ "\n"))), files⟩ =
      .ok (HexDump.render W) :=
  run_of_programLines (by rw [programLines, Text.lines_join _ ls hls])
    ((Assembly.assembleLines_map_append_lineFeed ls).trans h)

end Command

/-! ### Label names -/

namespace Operand

/-- A lowercase letter followed by word characters names a label: no register, special
operand or literal begins with one. -/
theorem IsLabelName.of_lower {c : Char} {w : List Char} (hc : 97 ≤ c.toNat ∧ c.toNat ≤ 122)
    (hw : ∀ x ∈ w, Text.isWordChar x = true) : IsLabelName (c :: w) := by
  refine ⟨⟨List.cons_ne_nil c w, ?_⟩, ?_, ?_, ?_⟩
  · intro x hx
    rcases List.mem_cons.mp hx with rfl | hx
    · exact Text.isWordChar_of_lower hc
    · exact hw x hx
  · exact not_isLiteralText_cons (Text.digitValue?_of_lower hc) fun h => by
      subst h
      simp at hc
  · cases hs : Special.ofName? (c :: w) with
    | none => rfl
    | some s =>
      have hmem := Special.mem_names_of_ofName? hs
      simp only [List.mem_cons, List.cons.injEq, List.not_mem_nil, or_false] at hmem
      rcases hmem with ⟨rfl, -⟩ | ⟨rfl, -⟩ | ⟨rfl, -⟩ | ⟨rfl, -⟩ | ⟨rfl, -⟩ | ⟨rfl, -⟩ <;>
        simp at hc
  · intro x hx
    obtain ⟨rfl, -⟩ := List.cons.inj hx
    cases hr : Register.ofChar? c with
    | none => rfl
    | some r =>
      have hmem := Register.mem_letters_of_ofChar? hr
      simp only [List.mem_cons, List.not_mem_nil, or_false] at hmem
      rcases hmem with rfl | rfl | rfl | rfl | rfl | rfl | rfl | rfl <;> simp at hc

/-- Lowercase letters followed by decimal digits name a label, and hold no line feed. -/
theorem isLabelName_lower_append_digits {w s : String} (hw : w.toList ≠ [])
    (hlower : w.toList.all (fun c => 97 ≤ c.toNat && c.toNat ≤ 122) = true)
    (hs : ∀ c ∈ s.toList, c.isDigit = true) :
    IsLabelName (w ++ s).toList ∧ '\n' ∉ (w ++ s).toList := by
  obtain ⟨c, cs, hcs⟩ := List.exists_cons_of_ne_nil hw
  have hlow : ∀ x ∈ c :: cs, 97 ≤ x.toNat ∧ x.toNat ≤ 122 := by
    simpa [hcs] using hlower
  rw [String.toList_append, hcs]
  refine ⟨IsLabelName.of_lower (hlow c List.mem_cons_self) fun x hx => ?_, fun hx => ?_⟩
  · rcases List.mem_append.mp hx with hx | hx
    · exact Text.isWordChar_of_lower (hlow x (List.mem_cons_of_mem c hx))
    · exact Text.isWordChar_of_isDigit (hs x hx)
  · rcases List.mem_append.mp hx with hx | hx
    · have := hlow '\n' hx
      simp at this
    · have := hs '\n' hx
      simp at this

/-- A label name is read as a reference to itself. -/
theorem parse_name {n : String} (hn : IsLabelName n.toList) (hlf : '\n' ∉ n.toList) :
    parse n = .ok (.next (.ref n)) := by
  simpa only [String.ofList_toList] using parse_label hlf hn

/-- A label name in brackets is read as the word at the label's address. -/
theorem parse_name_bracketed {n : String} (hn : IsLabelName n.toList) (hlf : '\n' ∉ n.toList) :
    parse ("[" ++ n ++ "]") = .ok (.derefNext (.ref n)) := by
  have htext : String.ofList ('[' :: n.toList ++ [']']) = "[" ++ n ++ "]" := by
    simp [String.ofList_append, String.ofList_cons, String.append_assoc]
  simpa only [htext, String.ofList_toList] using parse_label_bracketed hlf hn

end Operand

/-! ### Items of fields -/

/-- A field `:name` defines the label `name`, and the fields after it are read on. -/
theorem parseFields_label_cons {name : String} (hname : name.toList ≠ []) (ts : List String) :
    parseFields ((":" ++ name) :: ts) = (parseFields ts).cons (.label name) := by
  obtain ⟨c, cs, hcs⟩ := List.exists_cons_of_ne_nil hname
  have hlabel : Item.parseLabel (":" ++ name) = .ok name := by
    have htext : (":" ++ name).toList = ':' :: c :: cs := by simp [String.toList_append, hcs]
    rw [Item.parseLabel, htext]
    show Except.ok (String.ofList (c :: cs)) = _
    rw [← hcs, String.ofList_toList]
  have hhead : (":" ++ name).toList.head? = some ':' := by
    simp [String.toList_append]
  simp only [parseFields, hhead, hlabel, if_true]

theorem parseFields_instr {t : String} {ts : List String} {i : Instruction}
    (hhead : t.toList.head? ≠ some ':') (h : Instruction.parse (t :: ts) = .ok i) :
    parseFields (t :: ts) = ⟨[.instr i], none⟩ := by
  simp only [parseFields, if_neg hhead, h]

/-- A mnemonic, a first operand closed by a comma and a second operand read as a basic
instruction. -/
theorem Instruction.parse_basic {m t u : String} {op : BasicOp} {a b : Operand}
    (hm : Mnemonic.ofName? m = some (.basic op)) (ha : Operand.parse t = .ok a)
    (hb : Operand.parse u = .ok b) :
    Instruction.parse [m, t ++ ",", u] = .ok (.basic op a b) := by
  have hlast : (t ++ ",").toList.getLast? = some ',' := by simp [String.toList_append]
  have hdrop : String.ofList (t ++ ",").toList.dropLast = t := by
    simp [String.toList_append]
  simp only [Instruction.parse, Instruction.ofFields, hm, hlast, hdrop, ha, hb, if_true]
  rfl

theorem Instruction.parse_jsr {t : String} {a : Operand} (ha : Operand.parse t = .ok a) :
    Instruction.parse ["JSR", t] = .ok (.jsr a) := by
  have hm : Mnemonic.ofName? "JSR" = some .jsr := rfl
  simp only [Instruction.parse, Instruction.ofFields, hm, ha]
  rfl

/-- Lines each read without failure are read into their items, one line after another. -/
theorem parseLines_eq_of_forall₂ {ls : List String} {xss : List (List Item)}
    (h : List.Forall₂ (fun l xs => parseLine l = ⟨xs, none⟩) ls xss) :
    parseLines ls = ⟨xss.flatten, none⟩ := by
  induction h with
  | nil => rfl
  | cons hl _ ih => simp [parseLines, Parsed.andThen, hl, ih]

end Dcpu16Asm
