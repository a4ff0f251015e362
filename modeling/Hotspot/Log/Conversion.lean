/-
# Conversions of arguments

A conversion makes a text of an argument of a message.

| conversion | argument | text |
| --- | --- | --- |
| `s` | any | the value, a text as it is |
| `r` | any | the value, a text between quotes |
| `a` | any | the same in ASCII |
| `c` | an integer or a text | a code point |
| `d`, `i`, `u` | a number | its integer part in decimal |
| `o`, `x`, `X` | an integer | its octal or hexadecimal digits |
| `e`, `f`, `g` | a number | a decimal in scientific, fixed or general form |
| `E`, `F`, `G` | a number | the same in upper case |

The truth values are the integers 0 and 1. The precision cuts `s`, `r` and `a`
short, is the least number of digits of an integer, and the number of places of
a decimal.

| flag | |
| --- | --- |
| `-` | the text stands on the left of its width |
| `+` | a number that is not negative has a plus |
| blank | or a blank |
| `0` | zeros fill a number up to its width |
| `#` | an integer has a mark of its base, a decimal keeps its point and zeros |
-/

import Hotspot.Decimal.Rounded
import Hotspot.Log.Value

namespace Hotspot
namespace Log

/-- A conversion. -/
inductive Conversion
  | shown
  | quoted
  | ascii
  | character
  | integer
  | octal
  | hexadecimal (upper : Bool)
  | real (form : Decimal.Form) (upper : Bool)
  deriving DecidableEq, Repr

/-- How a placeholder lays out its argument. -/
structure Placeholder where
  left : Bool := false
  plus : Bool := false
  blank : Bool := false
  alternate : Bool := false
  zeros : Bool := false
  width : Nat := 0
  precision : Option Nat := none
  deriving DecidableEq, Repr

namespace Conversion

/-- The letters of the conversions. -/
def letters : List (CodePoint × Conversion) := [
  (0x73, .shown), (0x72, .quoted), (0x61, .ascii), (0x63, .character),
  (0x64, .integer), (0x69, .integer), (0x75, .integer),
  (0x6F, .octal), (0x78, .hexadecimal false), (0x58, .hexadecimal true),
  (0x65, .real .scientific false), (0x45, .real .scientific true),
  (0x66, .real .fixed false), (0x46, .real .fixed true),
  (0x67, .real .general false), (0x47, .real .general true)]

/-- Why an argument cannot be converted. -/
inductive Fault
  /-- It is of another kind than a number. -/
  | wantsNumber (letter : CodePoint) (kind : Text)
  /-- It is of another kind than an integer. -/
  | wantsInteger (letter : CodePoint) (kind : Text)
  /-- It is of another kind than a number, where a decimal is made. -/
  | wantsReal (kind : Text)
  /-- It is neither an integer nor a text of one code point. -/
  | wantsCharacter
  /-- It is the number of no code point. -/
  | noCodePoint
  /-- It is an infinity, which has no integer part. -/
  | infinite
  /-- It is no number at all, which has no integer part. -/
  | undefined
  /-- It is an integer beyond all doubles. -/
  | beyondDoubles
  /-- An integer is to have too many digits. -/
  | precisionTooLarge
  /-- An integer has too many digits. -/
  | tooManyDigits
  /-- There is no room for a text of the width. -/
  | noRoom
  deriving DecidableEq, Repr

/-- The wording of a fault. -/
def Fault.message : Fault → Text
  | .wantsNumber letter kind =>
    "%" ++ (letter :: (" format: a real number is required, not " : Text)) ++ kind
  | .wantsInteger letter kind =>
    "%" ++ (letter :: (" format: an integer is required, not " : Text)) ++ kind
  | .wantsReal kind => "must be real number, not " ++ kind
  | .wantsCharacter => "%c requires int or char"
  | .noCodePoint => "%c arg not in range(0x110000)"
  | .infinite => "cannot convert float infinity to integer"
  | .undefined => "cannot convert float NaN to integer"
  | .beyondDoubles => "int too large to convert to float"
  | .precisionTooLarge => "precision too large"
  | .tooManyDigits => tooManyDigitsWritten
  | .noRoom => []

/-- The greatest number of digits an integer can be asked to have. -/
def leastDigitsLimit : Nat := 0x7FFFFFFC

/-- The greatest width there is room for. -/
def roomLimit : Nat := 0x1000000000

/-- The places of a decimal that is not asked for any. -/
def standardPlaces : Nat := 6

/-- A text before it is filled up to its width. A number is filled up with zeros
between its head, which is the sign and the mark of the base, and the rest. -/
structure Piece where
  head : Text := []
  body : Text
  isNumber : Bool := false
  deriving DecidableEq, Repr

/-- The upper case of a letter of a number. -/
def upperLetter (c : CodePoint) : CodePoint :=
  if 0x61 ≤ c.val && c.val ≤ 0x7A then CodePoint.ofNat (c.val - 0x20) else c

/-- A number in upper case if that is asked for. -/
def Piece.inCase (upper : Bool) (x : Piece) : Piece :=
  if upper then { x with head := x.head.map upperLetter, body := x.body.map upperLetter } else x

/-- A text with an escape for every code point beyond ASCII. -/
def escaped (t : Text) : Text :=
  t.flatMap fun c =>
    if c.val < 0x80 then [c]
    else if c.val < 0x100 then "\\x" ++ Text.ofHex 2 c.val
    else if c.val < 0x10000 then "\\u" ++ Text.ofHex 4 c.val
    else "\\U" ++ Text.ofHex 8 c.val

/-- The text an argument is shown as. -/
def textOf : Option Text → Except Fault Text
  | some t => .ok t
  | none => .error .tooManyDigits

/-- The code point of an argument. -/
def codePointOf : Value → Except Fault CodePoint
  | .json (.text [c]) => .ok c
  | .json (.bool b) => .ok (if b then 1 else 0)
  | .json (.int i) =>
    if 0 ≤ i ∧ i < 0x110000 then .ok (CodePoint.ofNat i.toNat) else .error .noCodePoint
  | _ => .error .wantsCharacter

/-- The integer part of an argument. -/
def wholeOf (letter : CodePoint) : Value → Except Fault Int
  | .json (.int i) => .ok i
  | .json (.bool b) => .ok (if b then 1 else 0)
  | .json (.double .nan) => .error .undefined
  | .json (.double d) => d.truncate?.elim (.error .infinite) .ok
  | v => .error (.wantsNumber letter v.kindName)

/-- The integer that an argument is. -/
def integerOf (letter : CodePoint) : Value → Except Fault Int
  | .json (.int i) => .ok i
  | .json (.bool b) => .ok (if b then 1 else 0)
  | v => .error (.wantsInteger letter v.kindName)

/-- The double nearest to an argument. -/
def doubleOf : Value → Except Fault Double
  | .json (.double d) => .ok d
  | .json (.bool b) => .ok (Double.ofInt (if b then 1 else 0))
  | .json (.int i) =>
    match Double.ofInt i with
    | .infinite _ => .error .beyondDoubles
    | d => .ok d
  | v => .error (.wantsReal v.kindName)

end Conversion

namespace Placeholder

open Conversion

/-- The sign of a number. -/
def sign (p : Placeholder) (negative : Bool) : Text :=
  if negative then "-" else if p.plus then "+" else if p.blank then " " else []

/-- A text of at most the precision. -/
def cut (p : Placeholder) (t : Text) : Text :=
  match p.precision with
  | some n => t.take n
  | none => t

/-- An integer in a base, after the mark of the base if it is asked for. The digits
are limited in base ten only. -/
def integerPiece (p : Placeholder) (base : Nat) (mark : Text) (i : Int) :
    Except Fault Piece :=
  let least := p.precision.getD 0
  if leastDigitsLimit < least then .error .precisionTooLarge
  else if base = 10 && !writable i then .error .tooManyDigits
  else
    let digits := (Nat.toDigits base i.natAbs).map CodePoint.ofChar
    .ok { head := p.sign (decide (i < 0)) ++ if p.alternate then mark else []
          body := List.replicate (least - digits.length) 0x30 ++ digits
          isNumber := true }

/-- A decimal in a form. -/
def realPiece (p : Placeholder) (form : Decimal.Form) (d : Double) : Piece where
  head := p.sign d.isNegative
  body := d.magnitudeText form p.alternate (p.precision.getD standardPlaces)
  isNumber := true

/-- What a conversion makes of an argument. -/
def piece (p : Placeholder) (letter : CodePoint) (argument : Value) :
    Conversion → Except Fault Piece
  | .shown => do pure { body := p.cut (← textOf argument.shown?) }
  | .quoted => do pure { body := p.cut (← textOf argument.quoted?) }
  | .ascii => do pure { body := p.cut (escaped (← textOf argument.quoted?)) }
  | .character => do pure { body := [← codePointOf argument] }
  | .integer => do p.integerPiece 10 [] (← wholeOf letter argument)
  | .octal => do p.integerPiece 8 "0o" (← integerOf letter argument)
  | .hexadecimal upper => do
    return (← p.integerPiece 16 "0x" (← integerOf letter argument)).inCase upper
  | .real form upper => do return (p.realPiece form (← doubleOf argument)).inCase upper

/-- A piece filled up to the width. -/
def fill (p : Placeholder) (x : Piece) : Text :=
  let missing := p.width - (x.head.length + x.body.length)
  if p.left then x.head ++ x.body ++ List.replicate missing 0x20
  else if p.zeros && x.isNumber then x.head ++ List.replicate missing 0x30 ++ x.body
  else List.replicate missing 0x20 ++ x.head ++ x.body

/-- The text of an argument. -/
def convert (p : Placeholder) (letter : CodePoint) (c : Conversion) (argument : Value) :
    Except Fault Text := do
  let x ← p.piece letter argument c
  if roomLimit < p.width then .error .noRoom else pure (p.fill x)

end Placeholder
end Log
end Hotspot
