import Dcpu16Asm.Text.CharClasses

/-!
Literals and names in operand text. A decimal literal is one or more decimal digits of
any script; a hexadecimal literal is `0x` and one to four hexadecimal digits; a name is
one or more word characters. Each form may carry one line feed at its very end, which is
not part of the number; a name keeps it.
-/

namespace Dcpu16Asm.Literal

/-- The text without one line feed at its end, if it has one there. -/
def dropFinalLineFeed (cs : List Char) : List Char :=
  if cs.getLast? = some '\n' then cs.dropLast else cs

/-- The value of a list of digits in a base, most significant first. -/
def digitsValue (base : Nat) (ds : List Nat) : Nat :=
  ds.foldl (fun acc d => acc * base + d) 0

/-- The digits of a decimal literal, or `none` for text that is not one. -/
def decimalDigits? (cs : List Char) : Option (List Nat) :=
  match dropFinalLineFeed cs with
  | [] => none
  | body => body.mapM Text.digitValue?

/-- The value of a hexadecimal digit `0`–`9`, `a`–`f` or `A`–`F`. -/
def hexDigitValue? (c : Char) : Option Nat :=
  if '0' ≤ c ∧ c ≤ '9' then some (c.toNat - '0'.toNat)
  else if 'a' ≤ c ∧ c ≤ 'f' then some (c.toNat - 'a'.toNat + 10)
  else if 'A' ≤ c ∧ c ≤ 'F' then some (c.toNat - 'A'.toNat + 10)
  else none

/-- The value of a hexadecimal literal, or `none` for text that is not one. -/
def hex? (cs : List Char) : Option Nat :=
  match dropFinalLineFeed cs with
  | '0' :: 'x' :: hs =>
    if 1 ≤ hs.length ∧ hs.length ≤ 4 then (hs.mapM hexDigitValue?).map (digitsValue 16)
    else none
  | _ => none

/-- Whether a text is a name: one or more word characters. -/
def isName (cs : List Char) : Bool :=
  match dropFinalLineFeed cs with
  | [] => false
  | body => body.all Text.isWordChar

example : decimalDigits? "12\n".toList = some [1, 2] ∧ decimalDigits? "\n".toList = none ∧
    hex? "0xBEEF".toList = some 0xbeef ∧ hex? "0x12345".toList = none ∧
    hex? "0X1".toList = none := by
  decide

end Dcpu16Asm.Literal
