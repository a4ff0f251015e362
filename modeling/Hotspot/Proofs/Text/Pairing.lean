/-
# Surrogate pairs, read from either end

`Text.joinPairs` joins the pairs of a text from its end. `Text.pairUp` does so
from its start, as a reader of 16-bit units would: a high surrogate right
before a low one is one supplementary code point, and every other code point
stands for itself. The two agree (`joinPairs_eq_pairUp`), also where high
surrogates follow each other, since a low surrogate belongs to the one high
surrogate right before it.

`Text.units` is the way back: each supplementary code point as its two
surrogates. Splitting first makes no difference to joining
(`joinPairs_units`).
-/

import Hotspot.Text.Surrogate

namespace Hotspot

namespace CodePoint

/-- The high surrogates by their range. -/
theorem isHighSurrogate_iff {c : CodePoint} :
    c.isHighSurrogate = true ↔ 0xD800 ≤ c.val ∧ c.val ≤ 0xDBFF := by
  simp [isHighSurrogate]

/-- The low ones by theirs. -/
theorem isLowSurrogate_iff {c : CodePoint} :
    c.isLowSurrogate = true ↔ 0xDC00 ≤ c.val ∧ c.val ≤ 0xDFFF := by
  simp [isLowSurrogate]

/-- Both are one range. -/
theorem isSurrogate_iff {c : CodePoint} :
    c.isSurrogate = true ↔ 0xD800 ≤ c.val ∧ c.val ≤ 0xDFFF := by
  simp [isSurrogate]

/-- The high half has the upper ten bits. -/
theorem split_fst_val (c : CodePoint) :
    c.split.1.val = 0xD800 + (c.val - 0x10000) / 0x400 := by
  have := c.isLt
  rw [split, val_ofNat]
  omega

/-- The low half has the lower ten. -/
theorem split_snd_val (c : CodePoint) :
    c.split.2.val = 0xDC00 + (c.val - 0x10000) % 0x400 := by
  rw [split, val_ofNat]
  omega

/-- So the first half is a high surrogate. -/
theorem isHighSurrogate_split (c : CodePoint) : c.split.1.isHighSurrogate = true := by
  have := c.isLt
  rw [isHighSurrogate_iff, split_fst_val]
  omega

/-- And the second a low one. -/
theorem isLowSurrogate_split (c : CodePoint) : c.split.2.isLowSurrogate = true := by
  rw [isLowSurrogate_iff, split_snd_val]
  omega

/-- Joined again they have all twenty. -/
theorem join_val {high low : CodePoint} (hh : high.isHighSurrogate = true)
    (hl : low.isLowSurrogate = true) :
    (high.join low).val = 0x10000 + (high.val - 0xD800) * 0x400 + (low.val - 0xDC00) := by
  rw [isHighSurrogate_iff] at hh
  rw [isLowSurrogate_iff] at hl
  exact val_ofNat (by omega)

/-- Joining the two surrogates of a supplementary code point gives it back. -/
theorem join_split {c : CodePoint} (h : 0x10000 ≤ c.val) : c.split.1.join c.split.2 = c := by
  apply Fin.ext
  rw [join_val (isHighSurrogate_split c) (isLowSurrogate_split c), split_fst_val, split_snd_val]
  omega

/-- Splitting what two surrogates were joined to gives them back. -/
theorem split_join {high low : CodePoint} (hh : high.isHighSurrogate = true)
    (hl : low.isLowSurrogate = true) : (high.join low).split = (high, low) := by
  have hjoin := join_val hh hl
  rw [isHighSurrogate_iff] at hh
  rw [isLowSurrogate_iff] at hl
  refine Prod.ext (Fin.ext ?_) (Fin.ext ?_)
  · rw [split_fst_val, hjoin]
    dsimp only
    omega
  · rw [split_snd_val, hjoin]
    dsimp only
    omega

/-- No code point is both halves of a pair. -/
theorem not_isHighSurrogate_of_low {c : CodePoint} (h : c.isLowSurrogate = true) :
    c.isHighSurrogate = false := by
  rw [isLowSurrogate_iff] at h
  rw [Bool.eq_false_iff, Ne, isHighSurrogate_iff]
  omega

end CodePoint

namespace Text

/-- Joins each high surrogate with a low surrogate right after it, from the start
of a text on. -/
def pairUp : Text → Text
  | high :: low :: rest =>
    if high.isHighSurrogate && low.isLowSurrogate then high.join low :: pairUp rest
    else high :: pairUp (low :: rest)
  | t => t

/-- The 16-bit units of a code point: itself, or its two surrogates. -/
def pointUnits (c : CodePoint) : Text :=
  if c.val < 0x10000 then [c] else [c.split.1, c.split.2]

/-- The 16-bit units of a text. -/
def units (t : Text) : Text :=
  t.flatMap pointUnits

/-! ## What joining does to the head -/

/-- Nothing is joined to what is no high surrogate. -/
theorem glue_of_not_high {c : CodePoint} (h : c.isHighSurrogate = false) (t : Text) :
    glue c t = c :: t := by
  cases t <;> simp [glue, h]

/-- Nor to what is no low one. -/
theorem glue_of_not_low {d : CodePoint} (h : d.isLowSurrogate = false) (c : CodePoint)
    (t : Text) : glue c (d :: t) = c :: d :: t := by
  simp [glue, h]

/-- A pair is joined. -/
theorem glue_pair {high low : CodePoint} (hh : high.isHighSurrogate = true)
    (hl : low.isLowSurrogate = true) (t : Text) :
    glue high (low :: t) = high.join low :: t := by
  simp [glue, hh, hl]

/-- A pair in front is joined, whatever is behind it. -/
theorem joinPairs_pair {high low : CodePoint} (hh : high.isHighSurrogate = true)
    (hl : low.isLowSurrogate = true) (t : Text) :
    joinPairs (high :: low :: t) = high.join low :: joinPairs t := by
  rw [joinPairs_cons, joinPairs_cons,
    glue_of_not_high (CodePoint.not_isHighSurrogate_of_low hl), glue_pair hh hl]

/-- What a code point that is no low surrogate comes to is no low surrogate either. -/
theorem exists_glue_head {c : CodePoint} (h : c.isLowSurrogate = false) (t : Text) :
    ∃ d u, glue c t = d :: u ∧ d.isLowSurrogate = false := by
  by_cases hp : ∃ low u, t = low :: u ∧ c.isHighSurrogate = true ∧ low.isLowSurrogate = true
  · obtain ⟨low, u, rfl, hh, hl⟩ := hp
    refine ⟨c.join low, u, glue_pair hh hl u, ?_⟩
    rw [Bool.eq_false_iff, Ne, CodePoint.isLowSurrogate_iff, CodePoint.join_val hh hl]
    omega
  · refine ⟨c, t, ?_, h⟩
    cases t with
    | nil => rfl
    | cons d u =>
      cases hh : c.isHighSurrogate with
      | false => exact glue_of_not_high hh _
      | true =>
        cases hl : d.isLowSurrogate with
        | false => exact glue_of_not_low hl c u
        | true => exact absurd ⟨d, u, rfl, hh, hl⟩ hp

/-- What is in front of no pair stays by itself. -/
theorem joinPairs_of_not_pair {c d : CodePoint}
    (h : (c.isHighSurrogate && d.isLowSurrogate) = false) (t : Text) :
    joinPairs (c :: d :: t) = c :: joinPairs (d :: t) := by
  rw [joinPairs_cons c]
  cases hh : c.isHighSurrogate with
  | false => exact glue_of_not_high hh _
  | true =>
    have hl : d.isLowSurrogate = false := by simpa [hh] using h
    obtain ⟨e, u, he, hlow⟩ := exists_glue_head hl (joinPairs t)
    rw [joinPairs_cons d, he]
    exact glue_of_not_low hlow c u

/-- **Joining from the end is joining from the start.** -/
theorem joinPairs_eq_pairUp (t : Text) : joinPairs t = pairUp t := by
  fun_induction pairUp t with
  | case1 high low rest h ih =>
    rw [Bool.and_eq_true] at h
    rw [joinPairs_pair h.1 h.2, ih]
  | case2 high low rest h ih =>
    rw [joinPairs_of_not_pair (by simpa using h), ih]
  | case3 t h =>
    match t with
    | [] => rfl
    | [c] => rfl
    | c :: d :: u => exact absurd rfl (h c d u)

/-! ## Units -/

@[simp] theorem units_cons (c : CodePoint) (t : Text) :
    units (c :: t) = pointUnits c ++ units t := List.flatMap_cons

/-- **Splitting does not change what joining gives.** -/
theorem joinPairs_units (t : Text) : joinPairs (units t) = joinPairs t := by
  induction t with
  | nil => rfl
  | cons c t ih =>
    rw [units_cons, joinPairs_cons c t, ← ih]
    unfold pointUnits
    split
    · rfl
    · have hc : c.isHighSurrogate = false := by
        rw [Bool.eq_false_iff, Ne, CodePoint.isHighSurrogate_iff]
        omega
      rw [List.cons_append, List.singleton_append, glue_of_not_high hc,
        joinPairs_pair (CodePoint.isHighSurrogate_split c) (CodePoint.isLowSurrogate_split c),
        CodePoint.join_split (by omega)]

/-- A text without surrogates has no pairs. -/
theorem pairUp_of_not_hasSurrogate {t : Text} (h : t.hasSurrogate = false) : pairUp t = t := by
  fun_induction pairUp t with
  | case1 high low rest hp =>
    rw [Bool.and_eq_true, CodePoint.isHighSurrogate_iff] at hp
    have hs : high.isSurrogate = false := by simp_all [hasSurrogate]
    rw [Bool.eq_false_iff, Ne, CodePoint.isSurrogate_iff] at hs
    omega
  | case2 high low rest hp ih =>
    rw [ih (by simp_all [hasSurrogate])]
  | case3 t => rfl

end Text
end Hotspot
