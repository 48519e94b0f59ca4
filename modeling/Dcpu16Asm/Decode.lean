/-!
Reading words back as instructions, the way the DCPU-16 fetches them. When the low four
bits of a first word are not 0 they are a basic opcode, with operand `a` in bits 4–9 and
operand `b` in bits 10–15; when they are 0, bits 4–9 are a non-basic opcode and bits
10–15 its one operand. An operand whose code is `0x10`–`0x17`, `0x1e` or `0x1f` takes the
next word of memory, `a`'s before `b`'s. A list of words decodes when this walk, begun at
its first word, ends exactly at its end.
-/
namespace Dcpu16Asm

/-- An instruction as the machine reads it: its opcode, its operand codes, and the next
words its operands took. -/
inductive Decoded where
  | basic (op a b : Nat) (next : List Nat)
  | nonBasic (op a : Nat) (next : List Nat)
  deriving DecidableEq, Repr

namespace Decode

/-- Whether an operand code takes a next word: `[next + register]`, `[next]` and `next`. -/
def takesNextWord (code : Nat) : Bool :=
  (0x10 ≤ code && code ≤ 0x17) || code == 0x1e || code == 0x1f

/-- The operand codes a first word holds, in the order their next words follow it. -/
def operandCodes (w : Nat) : List Nat :=
  if w % 0x10 = 0 then [w / 0x400] else [w / 0x10 % 0x40, w / 0x400]

/-- How many next words the operands of a first word take. -/
def nextCount (w : Nat) : Nat := ((operandCodes w).filter takesNextWord).length

/-- The instruction that a first word begins, with the next words it took. -/
def header (w : Nat) (next : List Nat) : Decoded :=
  if w % 0x10 = 0 then .nonBasic (w / 0x10 % 0x40) (w / 0x400) next
  else .basic (w % 0x10) (w / 0x10 % 0x40) (w / 0x400) next

/-- The instructions of a list of words, read from its first word on; `none` when the
next words of an instruction would run past the end. -/
def decode : List Nat → Option (List Decoded)
  | [] => some []
  | w :: rest =>
    match nextCount w, rest with
    | 0, rest => (decode rest).map (header w [] :: ·)
    | 1, x :: rest => (decode rest).map (header w [x] :: ·)
    | 2, x :: y :: rest => (decode rest).map (header w [x, y] :: ·)
    | _, _ => none

example : decode [0x7c01, 0x30, 0x0010, 0x7dc1, 0x1a] =
    some [.basic 1 0 0x1f [0x30], .nonBasic 1 0 [], .basic 1 0x1c 0x1f [0x1a]] := by
  decide

end Decode

end Dcpu16Asm
