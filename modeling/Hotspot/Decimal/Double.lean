/-
# Double precision numbers

A double is a sign and a number `m · 2 ^ e` with a mantissa `m` of 53 bits, or
an infinity, or no number. The exact value is kept, so that every rule about
doubles is a rule about integers.

| | mantissa | exponent |
| --- | --- | --- |
| normal | `2 ^ 52 ≤ m < 2 ^ 53` | `-1074 ≤ e ≤ 971` |
| subnormal and zero | `m < 2 ^ 52` | `e = -1074` |
-/

namespace Hotspot

/-- A double precision number. -/
inductive Double
  | nan
  | infinite (negative : Bool)
  | finite (negative : Bool) (mantissa : Nat) (exponent : Int)
  deriving DecidableEq, Repr

namespace Double

/-- A power of two. -/
def twoTo (n : Nat) : Nat := Nat.pow 2 n

/-- A power of ten. -/
def tenTo (n : Nat) : Nat := Nat.pow 10 n

/-- The least exponent. -/
def minExponent : Int := -1074

/-- The greatest exponent. -/
def maxExponent : Int := 971

/-- Zero, with a sign. -/
def zero (negative : Bool) : Double := .finite negative 0 minExponent

/-- Zero of either sign; nothing else is. -/
def isZero : Double → Bool
  | .finite _ m _ => m = 0
  | _ => false

/-- The nearest integer to `n / d`, the even one of two. -/
def divRound (n d : Nat) : Nat :=
  let q := n / d
  let r := n % d
  if 2 * r < d then q
  else if d < 2 * r then q + 1
  else if q % 2 = 0 then q
  else q + 1

/-- The integer part of the binary logarithm of `n / d`. -/
def log2Quotient (n d : Nat) : Int :=
  let guess : Int := (n.log2 : Int) - (d.log2 : Int)
  let reached :=
    if 0 ≤ guess then d * twoTo guess.toNat ≤ n else d ≤ n * twoTo (-guess).toNat
  if reached then guess else guess - 1

/-- The double nearest to `n / d`, for positive `n` and `d`. -/
def ofQuotient (negative : Bool) (n d : Nat) : Double :=
  let e := max (log2Quotient n d - 52) minExponent
  let m := if 0 ≤ e then divRound n (d * twoTo e.toNat) else divRound (n * twoTo (-e).toNat) d
  let (m, e) := if m = twoTo 53 then (twoTo 52, e + 1) else (m, e)
  if maxExponent < e then .infinite negative else .finite negative m e

/-- The double nearest to `digits · 10 ^ exponent`. Numbers of more than 310
digits before the point, or with more than 330 zeros after it, are settled by
their size. -/
def ofDecimal (negative : Bool) (digits : Nat) (exponent : Int) : Double :=
  if digits = 0 then zero negative
  else
    let size : Int := (Nat.toDigits 10 digits).length + exponent
    if 310 < size then .infinite negative
    else if size < -330 then zero negative
    else if 0 ≤ exponent then ofQuotient negative (digits * tenTo exponent.toNat) 1
    else ofQuotient negative digits (tenTo (-exponent).toNat)

/-- The greatest integer up to a finite double. -/
def floor? : Double → Option Int
  | .finite negative m e =>
    let i : Int := if negative then -(m : Int) else m
    some (if 0 ≤ e then i * twoTo e.toNat else i / twoTo (-e).toNat)
  | _ => none

end Double
end Hotspot
