import Dcpu16Asm.Command

/-!
The command line program: `main FILE` prints the hex dump of the program in `FILE`, and
`main` alone that of standard input. A failure is reported on standard error.
-/

open Dcpu16Asm

/-- All of standard input, line by line. -/
partial def readAll (stream : IO.FS.Stream) (acc : String) : IO String := do
  let line ← stream.getLine
  if line.isEmpty then pure acc else readAll stream (acc ++ line)

/-- Runs the assembler on the arguments and standard input. -/
def main (args : List String) : IO UInt32 := do
  let stdin ← if args.isEmpty then readAll (← IO.getStdin) "" else pure ""
  let files ← match args with
    | path :: _ =>
      try pure [(path, ← IO.FS.readFile path)] catch _ => pure []
    | [] => pure []
  match Command.run args ⟨Text.LineBreaks.unified.lines stdin, files⟩ with
  | .ok out =>
    IO.print out
    pure 0
  | .error f =>
    IO.eprintln f.message
    pure 1
