import Dcpu16Asm.Text.CharClasses

/-!
Quoted text: a text between quote marks, written so that it reads back unchanged and shows
every character that cannot be seen.

The quote mark is the apostrophe, unless the text holds an apostrophe and no double
quote. Inside, the quote mark and the backslash are preceded by a backslash; tab, line
feed and carriage return are written `\t`, `\n`, `\r`; other characters below U+0020, and
U+007F, are written `\xhh`; any other character is written as itself when it is printable,
and otherwise as `\xhh`, `\uhhhh` or `\Uhhhhhhhh`, the shortest of the three that holds its
code point.

Hexadecimal numerals, in escapes and in the hex dump alike, are lowercase: a number is
written with its significant digits, padded on the left with zeros to a least width and
never cut.
-/

namespace Dcpu16Asm.Text

/-- The lowercase hexadecimal digits of a number, most significant first; `0` for zero. -/
def hexDigits (n : Nat) : List Char := Nat.toDigits 16 n

/-- The hexadecimal numeral of `n`, padded with zeros on the left to at least `width` digits. -/
def hexPadded (width n : Nat) : String :=
  let ds := hexDigits n
  String.ofList (List.replicate (width - ds.length) '0' ++ ds)

example : hexPadded 4 0 = "0000" ∧ hexPadded 4 0x7c01 = "7c01" ∧ hexPadded 4 70000 = "11170" ∧
    hexPadded 2 0x85 = "85" := by decide

/-- The apostrophe. -/
def apostrophe : Char := '\x27'

/-- The double quote. -/
def doubleQuote : Char := '\x22'

/-- The quote mark for a text: the double quote when the text holds an apostrophe and no
double quote, the apostrophe otherwise. -/
def quoteMark (s : List Char) : Char :=
  if s.contains apostrophe && !s.contains doubleQuote then doubleQuote else apostrophe

/-- A backslash, a letter and the hexadecimal code of `c` padded to `width` digits. -/
def hexEscape (letter : Char) (width : Nat) (c : Char) : List Char :=
  '\\' :: letter :: (hexPadded width c.toNat).toList

/-- How one character is written between the quote marks `q`. -/
def escapeChar (q c : Char) : List Char :=
  if c = q ∨ c = '\\' then ['\\', c]
  else if c = '\t' then ['\\', 't']
  else if c = '\n' then ['\\', 'n']
  else if c = '\r' then ['\\', 'r']
  else if c.toNat < 0x20 ∨ c.toNat = 0x7f then hexEscape 'x' 2 c
  else if c.toNat < 0x7f ∨ isPrintable c then [c]
  else if c.toNat ≤ 0xff then hexEscape 'x' 2 c
  else if c.toNat ≤ 0xffff then hexEscape 'u' 4 c
  else hexEscape 'U' 8 c

/-- A text written between quote marks. -/
def quote (s : String) : String :=
  let q := quoteMark s.toList
  String.ofList (q :: s.toList.flatMap (escapeChar q) ++ [q])

/-- A list of texts, each quoted, between brackets and separated by a comma and a space. -/
def quoteList (xs : List String) : String :=
  "[" ++ ", ".intercalate (xs.map quote) ++ "]"

end Dcpu16Asm.Text
