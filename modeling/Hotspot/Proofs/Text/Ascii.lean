/-
# ASCII

Numbers are written in ASCII, one byte a digit, and with no more digits than the
bound on the number has.
-/

import Hotspot.Utf8
import Mathlib.Algebra.Group.Nat.Defs
import Mathlib.Data.Nat.Init

namespace Hotspot

/-! ## Sizes -/

namespace Utf8

/-- The widths add up from any start, which is what the induction needs. -/
theorem foldl_width (t : Text) (n : Nat) :
    t.foldl (fun total c => total + width c) n = n + size t := by
  induction t generalizing n with
  | nil => rfl
  | cons c t ih =>
    rw [size, List.foldl_cons, List.foldl_cons, ih, ih]
    omega

@[simp] theorem size_nil : size [] = 0 := rfl

@[simp] theorem size_cons (c : CodePoint) (t : Text) : size (c :: t) = width c + size t := by
  rw [size, List.foldl_cons, foldl_width, Nat.zero_add]

@[simp] theorem size_append (t u : Text) : size (t ++ u) = size t + size u := by
  induction t with
  | nil => rw [List.nil_append, size_nil, Nat.zero_add]
  | cons c t ih => rw [List.cons_append, size_cons, size_cons, ih, Nat.add_assoc]

end Utf8

namespace Text

variable {t u : Text} {n : Nat}

/-- Two texts have a surrogate if one of them has. -/
theorem hasSurrogate_append (t u : Text) :
    (t ++ u).hasSurrogate = (t.hasSurrogate || u.hasSurrogate) := List.any_append

/-! ## ASCII texts -/

/-- A text of code points below `0x80`. -/
def IsAscii (t : Text) : Prop := ∀ c ∈ t, c.val < 0x80

/-- Two ASCII texts make one. -/
theorem IsAscii.append (ht : IsAscii t) (hu : IsAscii u) : IsAscii (t ++ u) :=
  fun c hc => (List.mem_append.1 hc).elim (ht c) (hu c)

/-- A text of characters of an ASCII one is ASCII. -/
theorem IsAscii.subset (ht : IsAscii t) (h : u ⊆ t) : IsAscii u := fun c hc => ht c (h hc)

/-- A code point of an ASCII text takes one byte. -/
theorem IsAscii.size (ht : IsAscii t) : Utf8.size t = t.length := by
  induction t with
  | nil => rfl
  | cons c t ih =>
    have hwidth : Utf8.width c = 1 := if_pos (ht c List.mem_cons_self)
    rw [Utf8.size_cons, hwidth, ih (ht.subset (List.subset_cons_self c t)), List.length_cons]
    omega

/-- No surrogate is ASCII. -/
theorem IsAscii.hasSurrogate (ht : IsAscii t) : t.hasSurrogate = false := by
  rw [Text.hasSurrogate, List.any_eq_false]
  intro c hc hsurrogate
  have hlow := ht c hc
  simp only [CodePoint.isSurrogate, Bool.and_eq_true, decide_eq_true_eq] at hsurrogate
  omega

/-! ## Digits -/

/-- A digit is ASCII. -/
theorem digitChar_lt {d : Nat} (h : d < 16) : (Nat.digitChar d).toNat < 0x80 := by
  revert d
  decide

/-- So is every digit of a numeral in a base of up to sixteen. -/
theorem toNat_lt_of_mem_toDigits {b : Nat} (hb : 1 < b) (hb' : b ≤ 16) {n : Nat} {c : Char}
    (h : c ∈ Nat.toDigits b n) : c.toNat < 0x80 := by
  induction n using Nat.strong_induction_on with
  | _ n ih =>
    rw [Nat.toDigits_eq_if hb] at h
    split at h
    · rw [List.mem_singleton.1 h]
      exact digitChar_lt (by omega)
    · rcases List.mem_append.1 h with h | h
      · exact ih (n / b) (Nat.div_lt_self (by omega) hb) h
      · rw [List.mem_singleton.1 h]
        exact digitChar_lt (by have := Nat.mod_lt n (show b > 0 by omega); omega)

/-- So are such numerals. -/
theorem isAscii_toDigits {b : Nat} (hb : 1 < b) (hb' : b ≤ 16) (n : Nat) :
    IsAscii ((Nat.toDigits b n).map CodePoint.ofChar) := by
  intro c hc
  obtain ⟨char, hchar, rfl⟩ := List.mem_map.1 hc
  exact toNat_lt_of_mem_toDigits hb hb' hchar

/-- A decimal numeral is one of them. -/
theorem isAscii_ofNat (n : Nat) : IsAscii (ofNat n) := isAscii_toDigits (by decide) (by decide) n

/-- A number has so few digits just if it is below the power of their count. -/
theorem length_ofNat_le {k : Nat} (hk : 0 < k) : (ofNat n).length ≤ k ↔ n < 10 ^ k := by
  rw [ofNat, List.length_map, Nat.length_toDigits_le_iff (by decide) hk]

/-- A hexadecimal numeral is ASCII, zeros in front included. -/
theorem isAscii_ofHex (width n : Nat) : IsAscii (ofHex width n) := by
  refine IsAscii.append (fun c hc => ?_) (isAscii_toDigits (by decide) (by decide) n)
  rw [(List.mem_replicate.1 hc).2]
  decide

/-- A number that fits is padded to the width. -/
theorem length_ofHex {width : Nat} (hw : 0 < width) (h : n < 16 ^ width) :
    (ofHex width n).length = width := by
  have hlen := (Nat.length_toDigits_le_iff (by decide) hw).2 h
  rw [ofHex, List.length_append, List.length_replicate, List.length_map]
  omega

end Text
end Hotspot
