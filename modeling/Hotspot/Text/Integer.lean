/-
# Integers in decimal

A lenient and a strict reading of an integer.

| | lenient | strict |
| --- | --- | --- |
| blanks around it | dropped | refused |
| sign | `+` or `-`, right before the digits | same |
| digits | of any script | `0 … 9` |
| `_` between two digits | dropped | refused |
| over `digitLimit` digits | refused | refused, naming how many |
-/

import Hotspot.Text.Blank
import Hotspot.Text.Digit
import Hotspot.Text.DigitLimit

namespace Hotspot
namespace Text

/-- The number of a list of digit values, most significant first. -/
def ofDigits (digits : List Nat) : Nat :=
  digits.foldl (fun n d => n * 10 + d) 0

/-- A sign, if there is one, and what follows it. -/
def sign (t : Text) : Bool × Text :=
  match t with
  | 0x2D :: rest => (true, rest)
  | 0x2B :: rest => (false, rest)
  | _ => (false, t)

/-- A number with a sign. -/
def signed (negative : Bool) (n : Nat) : Int :=
  if negative then -(n : Int) else n

/-- The digits of a numeral in which single underscores may stand between
digits; `done` holds the digits read so far, last first. -/
def separatedDigits? (done : List Nat) : Text → Option (List Nat)
  | [] => some done.reverse
  | c :: rest =>
    match c.digit? with
    | some d => separatedDigits? (d :: done) rest
    | none =>
      if c = 0x5F && !done.isEmpty then
        match rest with
        | e :: rest =>
          match e.digit? with
          | some d => separatedDigits? (d :: done) rest
          | none => none
        | [] => none
      else none

/-- A blank that the lenient reading drops: all but the separators `1C … 1F`. -/
def isBlankAroundInteger (c : CodePoint) : Bool :=
  c.isBlank && !(0x1C ≤ c.val && c.val ≤ 0x1F)

/-- The lenient reading of an integer. -/
def toInt? (t : Text) : Option Int :=
  let (negative, numeral) := sign (dropAroundWhile isBlankAroundInteger t)
  match separatedDigits? [] numeral with
  | none | some [] => none
  | some digits =>
    if digits.length ≤ digitLimit then some (signed negative (ofDigits digits)) else none

/-- The outcome of the strict reading. -/
inductive Numeral
  /-- No integer. -/
  | malformed
  /-- More digits than the limit. -/
  | tooLong (digits : Nat)
  /-- An integer. -/
  | integer (value : Int)
  deriving DecidableEq, Repr

/-- The strict reading of an integer. -/
def numeral (t : Text) : Numeral :=
  let (negative, digits) := sign t
  if digits.isEmpty || !digits.all CodePoint.isDigit then .malformed
  else if digitLimit < digits.length then .tooLong digits.length
  else .integer (signed negative (ofDigits (digits.map fun c => c.val - 0x30)))

end Text
end Hotspot
