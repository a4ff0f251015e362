/-
# Lines

A line ends with `LF`, `CR` or `CR LF`, which is part of it; the last line may
end with the text.
-/

import Hotspot.Text.Basic

namespace Hotspot
namespace Text

/-- Puts a code point before lines: it starts a line if it ends one, and joins
the first line otherwise. A `CR` before a line that is only `LF` joins it. -/
def addToLines (c : CodePoint) (lines : List Text) : List Text :=
  if c = 0x0A then [c] :: lines
  else if c = 0x0D then
    match lines with
    | [0x0A] :: rest => [c, 0x0A] :: rest
    | _ => [c] :: lines
  else
    match lines with
    | line :: rest => (c :: line) :: rest
    | [] => [[c]]

/-- The lines of a text, each with its end. -/
def lines (t : Text) : List Text :=
  t.foldr addToLines []

/-- A code point that ends a line. -/
def isLineEnd (c : CodePoint) : Bool :=
  c = 0x0A || c = 0x0D

/-- A text without the line ends at its end. -/
def dropLineEnds (t : Text) : Text :=
  dropRightWhile isLineEnd t

/-- A line with its end, if it has one, written as `LF`. -/
def unixLine (line : Text) : Text :=
  let body := dropLineEnds line
  if body.length < line.length then body ++ [0x0A] else line

/-- A text with every line end written as `LF`. -/
def unixLines (t : Text) : Text :=
  (lines t).flatMap unixLine

end Text
end Hotspot
