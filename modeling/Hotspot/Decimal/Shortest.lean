/-
# Shortest decimals

The decimal of a double is the shortest one that reads back as the double, and
of those the nearest. The decimals that read back lie between the midpoints to
the two neighbouring doubles, the midpoints included if the mantissa is even.
If a point of a decimal grid lies there, so does one of the two grid points
next to the double, and these are all that is tried.
-/

import Hotspot.Decimal.Double
import Hotspot.Text.Basic

namespace Hotspot
namespace Decimal

/-- A positive rational number `num / den`. -/
structure Ratio where
  num : Nat
  den : Nat
  deriving DecidableEq, Repr

/-- `n · 2 ^ e` as a ratio. -/
def Ratio.scale2 (n : Nat) (e : Int) : Ratio :=
  if 0 ≤ e then ⟨n * Double.twoTo e.toNat, 1⟩ else ⟨n, Double.twoTo (-e).toNat⟩

/-- A ratio in units of `10 ^ k`. -/
def Ratio.inTens (r : Ratio) (k : Int) : Ratio :=
  if 0 ≤ k then ⟨r.num, r.den * Double.tenTo k.toNat⟩
  else ⟨r.num * Double.tenTo (-k).toNat, r.den⟩

/-- The greatest `p` with `10 ^ p` up to the ratio, from the binary logarithm of
the ratio: the estimate is right or one too small. -/
def Ratio.log10 (r : Ratio) : Int :=
  let estimate := Double.log2Quotient r.num r.den * 30103 / 100000
  let next := r.inTens (estimate + 1)
  if next.den ≤ next.num then estimate + 1
  else
    let here := r.inTens estimate
    if here.den ≤ here.num then estimate else estimate - 1

/-- A decimal `digits · 10 ^ exponent`. -/
structure Scientific where
  digits : Nat
  exponent : Int
  deriving DecidableEq, Repr

/-- The numbers that read back as one double, as multiples of a quarter of the
unit in its last place. -/
structure Interval where
  low : Nat
  value : Nat
  high : Nat
  /-- The two ends read back too. -/
  closed : Bool
  /-- The exponent of the quarter unit. -/
  exponent : Int
  deriving DecidableEq, Repr

/-- The interval of a mantissa and an exponent. The lower neighbour of a power
of two is only half as far. -/
def Interval.of (m : Nat) (e : Int) : Interval where
  low := if m = Double.twoTo 52 ∧ Double.minExponent < e then 4 * m - 1 else 4 * m - 2
  value := 4 * m
  high := 4 * m + 2
  closed := m % 2 = 0
  exponent := e - 2

/-- A grid point lies in the interval; `unit` is the quarter unit in grid steps. -/
def Interval.holds (i : Interval) (unit : Ratio) (point : Nat) : Bool :=
  let x := point * unit.den
  if i.closed then i.low * unit.num ≤ x && x ≤ i.high * unit.num
  else i.low * unit.num < x && x < i.high * unit.num

/-- The grid point next to the double that reads back, the nearer of two and
the even one of two equally near. -/
def Interval.onGrid? (i : Interval) (k : Int) : Option Nat :=
  let unit := (Ratio.scale2 1 i.exponent).inTens k
  let below := i.value * unit.num / unit.den
  let above := below + 1
  match i.holds unit below, i.holds unit above with
  | true, true =>
    let twice := 2 * (i.value * unit.num)
    let middle := (below + above) * unit.den
    if twice < middle then some below
    else if middle < twice then some above
    else if below % 2 = 0 then some below
    else some above
  | true, false => some below
  | false, true => some above
  | false, false => none

/-- Tries grids of more and more digits, the leading digit standing for
`10 ^ top`; `more` bounds the tries and seventeen digits always do. -/
def Interval.search (i : Interval) (top : Int) : (more : Nat) → (count : Nat) → Scientific
  | 0, _ => ⟨0, 0⟩
  | more + 1, count =>
    let k := top - count
    match i.onGrid? k with
    | some point => ⟨point, k⟩
    | none => i.search top more (count + 1)

/-- The shortest decimal of a positive finite double. -/
def shortest (m : Nat) (e : Int) : Scientific :=
  let i := Interval.of m e
  i.search (Ratio.scale2 m e).log10 18 0

/-- Digits without the zeros at their end, and how many there were. -/
def dropZeros (digits : List Char) : List Char × Nat :=
  let kept := (digits.reverse.dropWhile (· = '0')).reverse
  (kept, digits.length - kept.length)

/-- How a decimal is laid out. -/
structure Layout where
  /-- The least exponent of the leading digit that is written positionally. -/
  least : Int
  /-- The least exponent above that is not any more. -/
  bound : Int
  /-- The least number of digits of an exponent. -/
  exponentDigits : Nat

/-- Exponents `-4 … 15` are positional, others are written with two digits at
least. -/
def standard : Layout := ⟨-4, 16, 2⟩

/-- An exponent with its sign. -/
def Layout.exponentText (layout : Layout) (e : Int) : List Char :=
  let digits := Nat.toDigits 10 e.natAbs
  (if e < 0 then '-' else '+') ::
    (List.replicate (layout.exponentDigits - digits.length) '0' ++ digits)

/-- The text of a decimal; a whole number keeps `.0`. -/
def Layout.render (layout : Layout) (d : Scientific) : List Char :=
  let (digits, dropped) := dropZeros (Nat.toDigits 10 d.digits)
  let exponent := d.exponent + dropped
  let leading := exponent + digits.length - 1
  if layout.least ≤ leading ∧ leading < layout.bound then
    if 0 ≤ exponent then digits ++ List.replicate exponent.toNat '0' ++ ['.', '0']
    else if 0 ≤ leading then
      digits.take (leading.toNat + 1) ++ '.' :: digits.drop (leading.toNat + 1)
    else '0' :: '.' :: List.replicate (-leading - 1).toNat '0' ++ digits
  else
    let mantissa := match digits with
      | [] => []
      | [d] => [d]
      | d :: rest => d :: '.' :: rest
    mantissa ++ 'e' :: layout.exponentText leading

end Decimal

namespace Double

/-- The text of a double: the shortest decimal, and words for what is none. -/
def render (nan infinity : Text) : Double → Text
  | .nan => nan
  | .infinite negative => (if negative then [0x2D] else []) ++ infinity
  | .finite negative m e =>
    let magnitude :=
      if m = 0 then ['0', '.', '0'] else Decimal.standard.render (Decimal.shortest m e)
    (if negative then [0x2D] else []) ++ magnitude.map CodePoint.ofChar

end Double
end Hotspot
