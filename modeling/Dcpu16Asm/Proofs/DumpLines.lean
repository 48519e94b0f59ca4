import Dcpu16Asm.Command

/-!
The lines of the hex dump. Each word gives one line: its hexadecimal digits, padded with
zeros to four, then a line feed, and no digit is a line feed (`count_lineFeed_render`). A
line is five characters long when its word is below `0x10000` and longer otherwise
(`length_line_eq_five_iff`), so a dump has five characters per word exactly when every
word is below `0x10000` (`length_render_eq_iff`).
-/

namespace Dcpu16Asm.HexDump

theorem hexDigits_of_lt {k : Nat} (hk : k < 16) : Text.hexDigits k = [k.digitChar] :=
  Nat.toDigits_of_lt_base hk

/-- A numeral of more than one digit is the numeral of its leading part, then its last
digit. -/
theorem hexDigits_digit {m k : Nat} (hm : 0 < m) (hk : k < 16) :
    Text.hexDigits (16 * m + k) = Text.hexDigits m ++ [k.digitChar] := by
  rw [Text.hexDigits, ← Nat.toDigits_append_toDigits (by decide) hm hk,
    Nat.toDigits_of_lt_base hk]
  rfl

theorem mem_hexDigits {w : Nat} {c : Char} (h : c ∈ Text.hexDigits w) :
    ∃ d < 16, c = d.digitChar := by
  induction w using Nat.base_induction 16 (by decide) with
  | single k hk =>
    rw [hexDigits_of_lt hk, List.mem_singleton] at h
    exact ⟨k, hk, h⟩
  | digit m k hk hm ih =>
    rw [hexDigits_digit hm hk, List.mem_append, List.mem_singleton] at h
    rcases h with h | h
    · exact ih h
    · exact ⟨k, hk, h⟩

theorem lineFeed_not_mem_hexDigits (w : Nat) : '\n' ∉ Text.hexDigits w := by
  intro h
  obtain ⟨d, hd, heq⟩ := mem_hexDigits h
  have hdigit : ∀ d, d < 16 → Nat.digitChar d ≠ '\n' := by decide
  exact hdigit d hd heq.symm

theorem length_hexDigits_le_four_iff (w : Nat) :
    (Text.hexDigits w).length ≤ 4 ↔ w < 0x10000 :=
  Nat.length_toDigits_le_iff (by decide) (by decide)

theorem length_line (w : Nat) : (line w).length = max 4 (Text.hexDigits w).length + 1 := by
  simp only [line, Text.hexPadded, String.length_append, String.length_ofList, List.length_append,
    List.length_replicate]
  rw [show ("\n" : String).length = 1 from rfl]
  omega

theorem five_le_length_line (w : Nat) : 5 ≤ (line w).length := by
  rw [length_line]
  omega

/-- A line is five characters long exactly when its word is below `0x10000`. -/
theorem length_line_eq_five_iff (w : Nat) : (line w).length = 5 ↔ w < 0x10000 := by
  rw [length_line, ← length_hexDigits_le_four_iff]
  omega

theorem count_lineFeed_line (w : Nat) : (line w).toList.count '\n' = 1 := by
  have hpad : '\n' ∉ List.replicate (4 - (Text.hexDigits w).length) '0' ++ Text.hexDigits w := by
    simp only [List.mem_append, List.mem_replicate, not_or]
    exact ⟨fun h => absurd h.2 (by decide), lineFeed_not_mem_hexDigits w⟩
  simp only [line, Text.hexPadded, String.toList_append, String.toList_ofList, List.count_append,
    List.count_eq_zero_of_not_mem hpad]
  rfl

@[simp] theorem render_nil : render [] = "" := rfl

theorem render_cons (w : Nat) (ws : List Nat) : render (w :: ws) = line w ++ render ws := by
  simp [render, String.join_cons]

/-- One line feed per word. -/
theorem count_lineFeed_render (ws : List Nat) : (render ws).toList.count '\n' = ws.length := by
  induction ws with
  | nil => rfl
  | cons w ws ih =>
    rw [render_cons, String.toList_append, List.count_append, count_lineFeed_line, ih,
      List.length_cons, Nat.add_comm]

theorem five_mul_length_le (ws : List Nat) : 5 * ws.length ≤ (render ws).length := by
  induction ws with
  | nil => simp
  | cons w ws ih =>
    have := five_le_length_line w
    rw [render_cons, String.length_append, List.length_cons]
    omega

/-- A dump has five characters per word exactly when every word is below `0x10000`. -/
theorem length_render_eq_iff (ws : List Nat) :
    (render ws).length = 5 * ws.length ↔ ∀ w ∈ ws, w < 0x10000 := by
  induction ws with
  | nil => simp
  | cons w ws ih =>
    have hw := five_le_length_line w
    have hws := five_mul_length_le ws
    rw [render_cons, String.length_append, List.length_cons, List.forall_mem_cons,
      ← length_line_eq_five_iff, ← ih]
    omega

end Dcpu16Asm.HexDump
