/-!
Line breaking: how a text is cut into lines. Three conventions are in use. A stream that
knows only the line feed ends a line after each `\n`. A stream that keeps line endings as
written ends a line after `\n`, after `\r\n` and after a `\r` not followed by `\n`. A
stream that unifies endings first reads `\r\n` and a lone `\r` as `\n`. In each case a
line keeps its ending, and a last line without an ending counts when it is not empty.
-/

namespace Dcpu16Asm.Text

/-- A convention for where lines end. -/
inductive LineBreaks where
  /-- Only the line feed ends a line. -/
  | lineFeed
  /-- Line feed, carriage return and the pair of both end a line, kept as written. -/
  | anyBreak
  /-- Carriage returns are read as line feeds (a pair as one), which end lines. -/
  | unified
  deriving DecidableEq, Repr

/-- Reads `\r\n` and a lone `\r` as `\n`. -/
def unifyBreaks : List Char → List Char
  | [] => []
  | '\r' :: '\n' :: rest => '\n' :: unifyBreaks rest
  | '\r' :: rest => '\n' :: unifyBreaks rest
  | c :: rest => c :: unifyBreaks rest

/-- Whether a line ends after character `c`, followed by `next`. -/
def LineBreaks.endsAfter : LineBreaks → Char → Option Char → Bool
  | .anyBreak, c, next => c == '\n' || (c == '\r' && next != some '\n')
  | _, c, _ => c == '\n'

/-- Cuts a text after every character where `endsAfter` says a line ends; `cur` is the
current line, reversed. -/
def cutLines (endsAfter : Char → Option Char → Bool) (cur : List Char) : List Char → List (List Char)
  | [] => if cur.isEmpty then [] else [cur.reverse]
  | c :: rest =>
    if endsAfter c rest.head? then (c :: cur).reverse :: cutLines endsAfter [] rest
    else cutLines endsAfter (c :: cur) rest

/-- The lines of a text under a line breaking convention. -/
def LineBreaks.lines (p : LineBreaks) (s : String) : List String :=
  let cs := if p = .unified then unifyBreaks s.toList else s.toList
  (cutLines p.endsAfter [] cs).map String.ofList

example : LineBreaks.lineFeed.lines "a\r\nb\rc\n" = ["a\r\n", "b\rc\n"] ∧
    LineBreaks.anyBreak.lines "a\r\nb\rc\n" = ["a\r\n", "b\r", "c\n"] ∧
    LineBreaks.unified.lines "a\r\nb\rc" = ["a\n", "b\n", "c"] ∧
    LineBreaks.lineFeed.lines "" = [] := by decide

end Dcpu16Asm.Text
