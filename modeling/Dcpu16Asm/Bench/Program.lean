/-!
The benchmark program: copies of one block of 35 lines, the sample program of the
machine's description followed by one instruction of each remaining kind, a blank line
and a line with only a comment. Block `k` names its labels `loopk`, `startk`, `testsubk`,
`crashk`, `againk` and `targetk`, so no two blocks define the same label and every block
refers only to its own.
-/

namespace Dcpu16Asm.Bench

/-- The lines of block `k`. -/
def blockLines (k : Nat) : List String :=
  let n := toString k
  [":loop" ++ n ++ " :start" ++ n ++ "   ; block header",
   "SET A, 0x30      ; init",
   "SET [0x1000], 0x20",
   "SUB A, [0x1000]",
   "IFN A, 0x10",
   "    SET PC, crash" ++ n,
   "SET I, 10",
   "SET A, 0x2000",
   "SET [0x2000+I], [A]",
   "SUB I, 1",
   "IFN I, 0",
   "    SET PC, loop" ++ n,
   "SET X, 0x4",
   "JSR testsub" ++ n,
   "SET PC, crash" ++ n,
   ":testsub" ++ n ++ " SHL X, 4",
   "SET PC, POP",
   ":crash" ++ n ++ " :again" ++ n ++ " SET PC, crash" ++ n,
   "ADD A, B",
   "MUL [C], [X]",
   "DIV Y, Z",
   "MOD I, J",
   "SHR A, 5",
   "AND B, 100",
   "BOR C, [500]",
   "XOR X, [200+Y]",
   "IFE A, PEEK",
   "IFG B, PUSH",
   "IFB C, SP",
   "SET O, PC",
   "SET A, [0xAB+J]",
   "SET B, [target" ++ n ++ "]",
   ":target" ++ n ++ " SET A, 0x0",
   "",
   "   ; blank / comment only line"]

/-- The program of `n` blocks, numbered from 0; none when `n` is not positive. -/
def program (n : Int) : List String := (List.range n.toNat).flatMap blockLines

end Dcpu16Asm.Bench
