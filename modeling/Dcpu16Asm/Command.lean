import Dcpu16Asm.Assembly
import Dcpu16Asm.Text.Lines

/-!
The command line. With an argument, the program is the file that the first argument
names, read with unified line breaks; without one, it is standard input. Further
arguments are ignored. The hex dump of the assembled words is printed only once assembly
has succeeded, so a failure prints nothing.

The hex dump has one line per word: its lowercase hexadecimal digits padded with zeros to
four, then a line feed. A word above `0xffff` keeps all its digits.
-/

namespace Dcpu16Asm.HexDump

/-- The line of one word. -/
def line (w : Nat) : String := Text.hexPadded 4 w ++ "\n"

/-- The dump of a list of words. -/
def render (words : List Nat) : String := String.join (words.map line)

example : render [0x7c01, 0x30, 70000] = "7c01\n0030\n11170\n" := by decide

end Dcpu16Asm.HexDump

namespace Dcpu16Asm.Command

/-- Why the command fails. -/
inductive Failure where
  /-- The program does not assemble. -/
  | assembly (e : AsmError)
  /-- No file has the given path. -/
  | noSuchFile (path : String)
  deriving DecidableEq, Repr

/-- The report of a failure. -/
def Failure.message : Failure → String
  | .assembly e => e.message
  | .noSuchFile path => "[Errno 2] No such file or directory: " ++ Text.quote path

/-- What the command can read: standard input, as the lines its stream delivers, and the
contents of the files it may open, by path. -/
structure Console where
  stdin : List String
  files : List (String × String)

/-- The lines of the program that the arguments select. -/
def programLines (args : List String) (console : Console) : Except Failure (List String) :=
  match args with
  | [] => .ok console.stdin
  | path :: _ =>
    match console.files.lookup path with
    | some text => .ok (Text.LineBreaks.unified.lines text)
    | none => .error (.noSuchFile path)

/-- What the command prints: the hex dump of the selected program. -/
def run (args : List String) (console : Console) : Except Failure String := do
  let lines ← programLines args console
  match Assembly.assembleLines lines with
  | .ok words => .ok (HexDump.render words)
  | .error e => .error (.assembly e)

end Dcpu16Asm.Command
