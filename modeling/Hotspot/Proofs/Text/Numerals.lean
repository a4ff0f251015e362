/-
# Numerals

The strict reading of an integer against what there is to be read, digits `0 … 9`, at least
one, with a sign before them or without:

| text | digits | value |
| --- | --- | ---: |
| `12`, `+12` | `12` | 12 |
| `-012` | `012` | -12 |
| `+`, `1_2`, ` 12`, `--12` | | |

As no sign is a digit, a text is a numeral in one way at most. A numeral is read unless it
has too many digits, and a text that is none is malformed.
-/

import Hotspot.Text.Integer
import Mathlib.Data.Nat.Digits.Defs

namespace Hotspot
namespace Text

variable {t digits : Text} {i : Int} {n : Nat}

/-- A text is the digits `0 … 9` of a number, at least one. -/
structure IsDigits (t : Text) (n : Nat) : Prop where
  ne_nil : t ≠ []
  range : ∀ c ∈ t, 0x30 ≤ c.val ∧ c.val ≤ 0x39
  value : Nat.ofDigits 10 (t.reverse.map fun c => c.val - 0x30) = n

/-- A text is a numeral: some digits, which may have a sign before them, of an integer. -/
inductive IsNumeral : Text → Text → Int → Prop
  | unsigned {digits : Text} {n : Nat} (h : IsDigits digits n) : IsNumeral digits digits n
  | plus {digits : Text} {n : Nat} (h : IsDigits digits n) : IsNumeral (0x2B :: digits) digits n
  | minus {digits : Text} {n : Nat} (h : IsDigits digits n) :
    IsNumeral (0x2D :: digits) digits (-n)

/-! ## The limit -/

/-- A number is within the limit if it has at most 4300 digits. -/
theorem writable_iff : writable i = true ↔ i.natAbs < 10 ^ 4300 := by
  have hpow (n : Nat) : Nat.pow 10 n = 10 ^ n := rfl
  rw [writable, decide_eq_true_iff, hpow, digitLimit]

/-- An integer that can be shown has its numeral. -/
theorem ofInt?_of_writable (h : writable i = true) : ofInt? i = some (ofInt i) := if_pos h

/-- One of up to 4300 digits can be shown. -/
theorem ofInt?_of_lt (h : i.natAbs < 10 ^ 4300) : ofInt? i = some (ofInt i) :=
  ofInt?_of_writable (writable_iff.2 h)

/-! ## Digits -/

/-- A number is read from its digits as it is made up of them. -/
theorem ofDigits_eq (ds : List Nat) : ofDigits ds = Nat.ofDigits 10 ds.reverse := by
  rw [Nat.ofDigits_eq_foldr, List.foldr_reverse, ofDigits]
  congr 1
  funext n d
  rw [Nat.cast_id]
  omega

/-- Digits with their value, as they are tested for and added up. -/
theorem isDigits_iff :
    IsDigits t n ↔ (t.isEmpty || !t.all CodePoint.isDigit) = false ∧
      ofDigits (t.map fun c => c.val - 0x30) = n := by
  have hrange : t.all CodePoint.isDigit = true ↔ ∀ c ∈ t, 0x30 ≤ c.val ∧ c.val ≤ 0x39 := by
    simp only [List.all_eq_true, CodePoint.isDigit, Bool.and_eq_true, decide_eq_true_eq]
  rw [ofDigits_eq, ← List.map_reverse, Bool.or_eq_false_iff, List.isEmpty_eq_false_iff,
    Bool.not_eq_false', hrange]
  exact ⟨fun h => ⟨⟨h.ne_nil, h.range⟩, h.value⟩, fun h => ⟨h.1.1, h.1.2, h.2⟩⟩

/-- A number of at most so many digits is below that power of ten. -/
theorem IsDigits.lt (h : IsDigits t n) {most : Nat} (hmost : t.length ≤ most) :
    n < 10 ^ most := by
  have hlt : Nat.ofDigits 10 (t.reverse.map fun c => c.val - 0x30) <
      10 ^ (t.reverse.map fun c => c.val - 0x30).length := by
    refine Nat.ofDigits_lt_base_pow_length (by decide) fun d hd => ?_
    obtain ⟨c, hc, rfl⟩ := List.mem_map.1 hd
    have hrange := h.range c (List.mem_reverse.1 hc)
    omega
  rw [h.value, List.length_map, List.length_reverse] at hlt
  exact Nat.lt_of_lt_of_le hlt (Nat.pow_le_pow_right (by decide) hmost)

/-- A number is written with its digits. -/
theorem isDigits_ofNat (n : Nat) : IsDigits (ofNat n) n := by
  refine isDigits_iff.2 ⟨?_, ?_⟩
  · rw [Bool.or_eq_false_iff, List.isEmpty_eq_false_iff, Bool.not_eq_false', List.all_eq_true]
    refine ⟨List.map_eq_nil_iff.not.2 Nat.toDigits_ne_nil, fun c hc => ?_⟩
    obtain ⟨char, hchar, rfl⟩ := List.mem_map.1 hc
    have hdigit := Nat.isDigit_of_mem_toDigits (by decide) (by decide) hchar
    rw [Char.isDigit_iff_toNat] at hdigit
    rw [CodePoint.isDigit, Bool.and_eq_true, decide_eq_true_eq, decide_eq_true_eq]
    exact hdigit
  · have hvalue : Nat.ofDigitChars 10 (Nat.toDigits 10 n) 0 = n :=
      Nat.ofDigitChars_toDigits (by decide) (by decide)
    rw [Nat.ofDigitChars] at hvalue
    conv_rhs => rw [← hvalue]
    rw [ofDigits, ofNat, List.foldl_map, List.foldl_map]
    congr 1
    funext total char
    rw [Nat.mul_comm]
    rfl

/-- Digits have no sign. -/
theorem sign_of_isDigits (h : IsDigits t n) : sign t = (false, t) := by
  rw [sign.eq_def]
  split
  · have hmin := (h.range _ List.mem_cons_self).1
    exact absurd hmin (by decide)
  · have hmin := (h.range _ List.mem_cons_self).1
    exact absurd hmin (by decide)
  · rfl

/-! ## The strict reading -/

/-- A numeral is a sign and digits, as the text is taken apart. -/
theorem isNumeral_iff :
    IsNumeral t digits i ↔ (sign t).2 = digits ∧
      ∃ n, IsDigits digits n ∧ signed (sign t).1 n = i := by
  constructor
  · intro h
    cases h with
    | unsigned h =>
      rw [sign_of_isDigits h]
      exact ⟨rfl, _, h, rfl⟩
    | plus h => exact ⟨rfl, _, h, rfl⟩
    | minus h => exact ⟨rfl, _, h, rfl⟩
  · rintro ⟨rfl, n, h, rfl⟩
    revert h
    rw [sign.eq_def]
    split
    · exact .minus
    · exact .plus
    · exact .unsigned

/-- A numeral is read, unless it has too many digits. -/
theorem numeral_of_isNumeral (h : IsNumeral t digits i) :
    numeral t = if digitLimit < digits.length then .tooLong digits.length else .integer i := by
  obtain ⟨rfl, n, hdigits, rfl⟩ := isNumeral_iff.1 h
  obtain ⟨hsome, rfl⟩ := isDigits_iff.1 hdigits
  rw [numeral]
  dsimp only
  rw [hsome]
  rfl

/-- A text that is no numeral is malformed. -/
theorem numeral_of_not_isNumeral (h : ∀ digits i, ¬IsNumeral t digits i) :
    numeral t = .malformed := by
  have hnone : ((sign t).2.isEmpty || !(sign t).2.all CodePoint.isDigit) = true := by
    rw [← Bool.not_eq_false]
    exact fun hsome => h _ _ (isNumeral_iff.2 ⟨rfl, _, isDigits_iff.2 ⟨hsome, rfl⟩, rfl⟩)
  rw [numeral]
  dsimp only
  rw [if_pos hnone]

end Text
end Hotspot
