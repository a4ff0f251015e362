/-
# Rounded decimals

A double to a number of places, in one of three forms. The exact value is
rounded once, a half to the even neighbour.

| form | places | `1234.5` to two places |
| --- | --- | --- |
| fixed | behind the point | `1234.50` |
| scientific | behind the point | `1.23e+03` |
| general | digits in all, without zeros at the end | `1.2e+03` |

The general form is fixed where the exponent of the leading digit is at least
`-4` and less than the number of digits. The alternate forms keep the point and
the zeros at the end in any case.
-/

import Hotspot.Decimal.Shortest

namespace Hotspot
namespace Decimal

/-- A form. -/
inductive Form
  | fixed
  | scientific
  | general
  deriving DecidableEq, Repr

/-- A ratio rounded to so many places behind the point, in units of the last. -/
def Ratio.toPlaces (r : Ratio) (places : Nat) : Nat :=
  Double.divRound (r.num * Double.tenTo places) r.den

/-- A ratio rounded to so many digits behind the leading one: the digits, and
the exponent of the leading one. -/
def Ratio.toDigits (r : Ratio) (places : Nat) : Nat × Int :=
  if r.num = 0 then (0, 0)
  else
    let top := r.log10
    let scaled := r.inTens (top - places)
    let n := Double.divRound scaled.num scaled.den
    if n = Double.tenTo (places + 1) then (Double.tenTo places, top + 1) else (n, top)

/-- The digits of a number, with zeros in front up to a width. -/
def paddedDigits (width n : Nat) : List Char :=
  let digits := Nat.toDigits 10 n
  List.replicate (width - digits.length) '0' ++ digits

/-- Digits with a point before so many of the last. Without any the point is
only written if it has to be. -/
def withPoint (point : Bool) (places : Nat) (digits : List Char) : List Char :=
  let whole := digits.length - places
  let fraction := digits.drop whole
  digits.take whole ++ if fraction.isEmpty && !point then [] else '.' :: fraction

/-- Digits without the zeros at the end behind the point, so many of them being
behind it; how many are left there. -/
def dropPlaces (places : Nat) (digits : List Char) : Nat × List Char :=
  let zeros := min places (dropZeros digits).2
  (places - zeros, digits.take (digits.length - zeros))

/-- No double has more digits than that, from the leading one to the last that
is not zero, nor more of them behind the point. -/
def digitsBound : Nat := 1100

/-- The digits of a ratio to so many places behind the point. -/
def placedDigits (r : Ratio) (places : Nat) : List Char :=
  let exact := min places digitsBound
  paddedDigits (exact + 1) (r.toPlaces exact) ++ List.replicate (places - exact) '0'

/-- The leading digit of a ratio and so many behind it, and its exponent. -/
def leadingDigits (r : Ratio) (places : Nat) : List Char × Int :=
  let exact := min places digitsBound
  let (n, exponent) := r.toDigits exact
  (paddedDigits (exact + 1) n ++ List.replicate (places - exact) '0', exponent)

/-- The fixed form. -/
def fixedText (point : Bool) (r : Ratio) (places : Nat) : List Char :=
  withPoint point places (placedDigits r places)

/-- Digits and the exponent of the leading one, in scientific form. -/
def scientificDigits (point : Bool) (digits : List Char) (exponent : Int) : List Char :=
  withPoint point (digits.length - 1) digits ++ 'e' :: standard.exponentText exponent

/-- The scientific form. -/
def scientificText (point : Bool) (r : Ratio) (places : Nat) : List Char :=
  let (digits, exponent) := leadingDigits r places
  scientificDigits point digits exponent

/-- The general form. -/
def generalText (alternate : Bool) (r : Ratio) (places : Nat) : List Char :=
  let count := max (if alternate then places else min places digitsBound) 1
  let (digits, exponent) := leadingDigits r (count - 1)
  let trim (behind : Nat) (digits : List Char) : Nat × List Char :=
    if alternate then (behind, digits) else dropPlaces behind digits
  if standard.least ≤ exponent ∧ exponent < count then
    let zeros := (-exponent).toNat
    let (behind, digits) :=
      trim (count - 1 - exponent.toNat + zeros) (List.replicate zeros '0' ++ digits)
    withPoint alternate behind digits
  else scientificDigits alternate (trim (count - 1) digits).2 exponent

/-- A ratio in a form, to so many places. -/
def Form.text (form : Form) (alternate : Bool) (places : Nat) (r : Ratio) : List Char :=
  match form with
  | .fixed => fixedText alternate r places
  | .scientific => scientificText alternate r places
  | .general => generalText alternate r places

end Decimal

namespace Double

/-- The sign of a double: only what is no number has none. -/
def isNegative : Double → Bool
  | .nan => false
  | .infinite negative => negative
  | .finite negative _ _ => negative

/-- A double without its sign in a form, to so many places. -/
def magnitudeText (form : Decimal.Form) (alternate : Bool) (places : Nat) : Double → Text
  | .nan => "nan"
  | .infinite _ => "inf"
  | .finite _ m e =>
    (form.text alternate places (Decimal.Ratio.scale2 m e)).map CodePoint.ofChar

/-- The double nearest to an integer. -/
def ofInt (i : Int) : Double :=
  if i = 0 then zero false else ofQuotient (decide (i < 0)) i.natAbs 1

/-- A finite double without its fraction. -/
def truncate? : Double → Option Int
  | .finite negative m e =>
    let n := if 0 ≤ e then m * twoTo e.toNat else m / twoTo (-e).toNat
    some (if negative then -(n : Int) else n)
  | _ => none

end Double
end Hotspot
