/-
# Hexadecimal numerals

A number that fits a width has one numeral of that width. It is written by its last digit and
the digits of the rest, so a numeral is cut where the number is divided:

| digits | of |
| --- | --- |
| all `k + m` | `n` |
| the first `k` | `n / 16 ^ m` |
| the last `m` | `n % 16 ^ m` |
-/

import Hotspot.Text.Basic
import Mathlib.Algebra.Group.Nat.Defs
import Mathlib.Data.List.Induction
import Mathlib.Data.Nat.Init

namespace Hotspot
namespace Text

variable {t : Text} {c : CodePoint} {k n : Nat}

/-! ## Digits -/

/-- A hexadecimal digit. -/
def hexDigit (d : Nat) : CodePoint := CodePoint.ofChar (Nat.digitChar d)

/-- The last digits of a number, as many as asked for. -/
def hexDigits : Nat → Nat → Text
  | 0, _ => []
  | k + 1, n => hexDigits k (n / 16) ++ [hexDigit (n % 16)]

@[simp] theorem length_hexDigits (k n : Nat) : (hexDigits k n).length = k := by
  induction k generalizing n with
  | zero => rfl
  | succ k ih => rw [hexDigits, List.length_append, ih, List.length_singleton]

/-- Digits are cut where the number is divided. -/
theorem hexDigits_add (k m n : Nat) :
    hexDigits (k + m) n = hexDigits k (n / 16 ^ m) ++ hexDigits m n := by
  induction m generalizing n with
  | zero => rw [Nat.add_zero, Nat.pow_zero, Nat.div_one, hexDigits, List.append_nil]
  | succ m ih =>
    rw [← Nat.add_assoc, hexDigits, ih, hexDigits, List.append_assoc, Nat.div_div_eq_div_mul,
      Nat.pow_succ']

/-- A number that is written to a width is written by its last digit and the rest. -/
theorem ofHex_succ (hk : 0 < k) (n : Nat) :
    ofHex (k + 1) n = ofHex k (n / 16) ++ [hexDigit (n % 16)] := by
  by_cases hn : n < 16
  · have hzero : Nat.toDigits 16 0 = ['0'] := rfl
    have hdigit : CodePoint.ofChar '0' = 0x30 := by decide
    rw [Nat.div_eq_of_lt hn, Nat.mod_eq_of_lt hn, ofHex, ofHex, hzero,
      Nat.toDigits_eq_if (by decide), if_pos hn]
    obtain ⟨k, rfl⟩ := Nat.exists_eq_add_of_lt hk
    simp [hdigit, hexDigit, List.replicate_succ']
  · have hstep : Nat.toDigits 16 n = Nat.toDigits 16 (n / 16) ++ [Nat.digitChar (n % 16)] := by
      rw [Nat.toDigits_eq_if (by decide), if_neg hn]
    simp [ofHex, hstep, hexDigit]

/-- Padding a numeral with zeros gives all its digits, those of the zeros in front included. -/
theorem ofHex_eq_hexDigits (hk : 0 < k) (h : n < 16 ^ k) : ofHex k n = hexDigits k n := by
  induction k, hk using Nat.le_induction generalizing n with
  | base =>
    have hn : n < 16 := h
    rw [ofHex, Nat.toDigits_eq_if (by decide), if_pos hn, hexDigits, hexDigits,
      Nat.mod_eq_of_lt hn]
    rfl
  | succ k hk ih =>
    rw [ofHex_succ hk, hexDigits, ih (by rw [Nat.pow_succ] at h; omega)]

/-! ## Numerals -/

/-- The digits in the order of their values. -/
def hexAlphabet : Text := "0123456789abcdef"

/-- The number of a numeral. -/
def hexValue (t : Text) : Nat := t.foldl (fun n c => 16 * n + hexAlphabet.idxOf c) 0

/-- The numeral of a number: so many digits in lower case, zeros in front included. -/
structure IsHexNumeral (width n : Nat) (t : Text) : Prop where
  length : t.length = width
  digits : ∀ c ∈ t, c ∈ hexAlphabet
  value : hexValue t = n

/-- The last digit has the lowest value. -/
theorem hexValue_concat (t : Text) (c : CodePoint) :
    hexValue (t ++ [c]) = 16 * hexValue t + hexAlphabet.idxOf c := by
  rw [hexValue, List.foldl_append]
  rfl

/-- The characters of the alphabet are the digits. -/
theorem mem_hexAlphabet : c ∈ hexAlphabet ↔ ∃ d < 16, hexDigit d = c := by
  have hdigits : hexAlphabet = (List.range 16).map hexDigit := by decide
  rw [hdigits, List.mem_map]
  simp only [List.mem_range]

/-- A digit stands where its value says. -/
theorem idxOf_hexDigit {d : Nat} (h : d < 16) : hexAlphabet.idxOf (hexDigit d) = d := by
  revert d
  decide

/-- And what stands there is the digit. -/
theorem hexDigit_idxOf (h : c ∈ hexAlphabet) : hexDigit (hexAlphabet.idxOf c) = c := by
  obtain ⟨d, hd, rfl⟩ := mem_hexAlphabet.1 h
  rw [idxOf_hexDigit hd]

/-- The digits of a number are a numeral of it. -/
theorem isHexNumeral_hexDigits (h : n < 16 ^ k) : IsHexNumeral k n (hexDigits k n) := by
  induction k generalizing n with
  | zero => exact ⟨rfl, List.forall_mem_nil _, by rw [Nat.lt_one_iff.1 h]; rfl⟩
  | succ k ih =>
    have hmod : n % 16 < 16 := Nat.mod_lt n (by decide)
    have hrest := ih (n := n / 16) (by rw [Nat.pow_succ] at h; omega)
    refine ⟨length_hexDigits _ _, ?_, ?_⟩
    · rw [hexDigits, List.forall_mem_append, List.forall_mem_singleton]
      exact ⟨hrest.digits, mem_hexAlphabet.2 ⟨_, hmod, rfl⟩⟩
    · rw [hexDigits, hexValue_concat, hrest.value, idxOf_hexDigit hmod]
      omega

/-- A number has no other numeral of that width. -/
theorem IsHexNumeral.eq_hexDigits (h : IsHexNumeral k n t) : t = hexDigits k n := by
  obtain ⟨hlength, hdigits, hvalue⟩ := h
  subst hlength hvalue
  induction t using List.reverseRecOn with
  | nil => rfl
  | append_singleton t c ih =>
    rw [List.forall_mem_append, List.forall_mem_singleton] at hdigits
    have hlt : hexAlphabet.idxOf c < 16 := List.idxOf_lt_length_of_mem hdigits.2
    have hdiv : (16 * hexValue t + hexAlphabet.idxOf c) / 16 = hexValue t := by omega
    have hmod : (16 * hexValue t + hexAlphabet.idxOf c) % 16 = hexAlphabet.idxOf c := by omega
    rw [hexValue_concat, List.length_append, List.length_singleton, hexDigits, hdiv, hmod,
      ← ih hdigits.1, hexDigit_idxOf hdigits.2]

/-- So the digits of a number are its one numeral of that width. -/
theorem isHexNumeral_iff (h : n < 16 ^ k) : IsHexNumeral k n t ↔ t = hexDigits k n :=
  ⟨IsHexNumeral.eq_hexDigits, fun heq => heq ▸ isHexNumeral_hexDigits h⟩

end Text
end Hotspot
