import VmSupport.Text.Cut
import VmSupport.Toml.Survey

/-!
# Excerpts

A complaint about a part of a text shows the line in which the part begins, and marks the part in it.
Lines and columns are counted from one, and a column is a character. The marks are as many as the
part has bytes, as far as the line goes, and at least one.
-/

namespace VmSupport.Toml

/-- The line in which a part of a text begins. -/
structure Excerpt where
  /-- How many lines there are before. -/
  line : Nat
  /-- How many characters of the line there are before the part. -/
  column : Nat
  /-- The line, without the line feed. -/
  content : List Char
  /-- The number of marks. -/
  width : Nat

namespace Excerpt

/-- The line in which an extent of a text begins. -/
def ofExtent (s : List Char) (e : Extent) : Excerpt :=
  let before := s.take (s.length - e.start.length)
  let lineBefore := (before.reverse.takeWhile (· ≠ '\n')).reverse
  let content := lineBefore ++ e.start.takeWhile (· ≠ '\n')
  let bytes := Text.byteLength e.start - Text.byteLength e.behind
  { line := before.count '\n'
    column := lineBefore.length
    content
    width := max 1 (min bytes (Text.byteLength content - lineBefore.length)) }

/-- The excerpt with a margin that holds the number of the line. -/
def render (x : Excerpt) : String :=
  let number := Nat.toDigits 10 (x.line + 1)
  let margin := List.replicate (number.length + 1) ' ' ++ ['|']
  String.ofList
    ("TOML parse error at line ".toList ++ number ++ ", column ".toList ++
      Nat.toDigits 10 (x.column + 1) ++ ['\n'] ++
      margin ++ ['\n'] ++
      number ++ [' ', '|', ' '] ++ x.content ++ ['\n'] ++
      margin ++ List.replicate (x.column + 1) ' ' ++ List.replicate x.width '^' ++ ['\n'])

end Excerpt

end VmSupport.Toml
