/-
# Reading back what UTF-8 writes

A step of the lenient reader takes exactly the bytes of one code point, whatever
follows them (`stepWith_encodePoint`), so that reading the bytes of any text,
surrogates included, gives the text (`decodePassing_encode`).

The first byte announces how many follow and what the second may be; the
announcements of `E0`, `ED`, `F0` and `F4` keep a code point from having two
written forms.
-/

import Hotspot.Utf8
import Mathlib.Tactic.SplitIfs

namespace Hotspot

/-- A code point is the one of its number. -/
theorem CodePoint.ofNat_val (c : CodePoint) : CodePoint.ofNat c.val = c :=
  Fin.ext (CodePoint.val_ofNat c.isLt)

namespace Utf8

/-! ## Trail bytes -/

/-- A trailing byte as a number. -/
theorem toNat_trail (n : Nat) : (UInt8.ofNat (0x80 + n % 0x40)).toNat = 0x80 + n % 0x40 := by
  rw [UInt8.toNat_ofNat']
  omega

/-- Six bits behind the mark are a trailing byte. -/
theorem isTrail_ofNat (n : Nat) : isTrail (UInt8.ofNat (0x80 + n % 0x40)) = true := by
  simp only [isTrail, Bool.and_eq_true, decide_eq_true_eq, UInt8.le_iff_toNat_le, toNat_trail,
    UInt8.reduceToNat]
  omega

/-- A trail byte adds its six bits to the payload. -/
theorem trail_ofNat (n more payload width : Nat) (rest : Bytes) :
    trail (more + 1) payload width (UInt8.ofNat (0x80 + n % 0x40) :: rest) =
      trail more (payload * 0x40 + n % 0x40) (width + 1) rest := by
  rw [trail, if_pos (isTrail_ofNat n), toNat_trail, Nat.add_sub_cancel_left]

/-! ## Announcements -/

/-- The first byte of a sequence announces the second one, and the payload and the
length that belong to it. -/
def Announces (b second : UInt8) (payload more : Nat) : Prop :=
  ∃ lead, lead? b = some lead ∧ lead.payload = payload ∧ lead.more = more ∧
    lead.low ≤ second ∧ second ≤ lead.high

/-- The first two bytes of `0x80 … 0x7FF`. -/
theorem announces_two {n : Nat} (h : 0x80 ≤ n) (h' : n < 0x800) :
    Announces (UInt8.ofNat (0xC0 + n / 0x40)) (UInt8.ofNat (0x80 + n % 0x40)) (n / 0x40) 0 := by
  have hb : (UInt8.ofNat (0xC0 + n / 0x40)).toNat = 0xC0 + n / 0x40 := by
    rw [UInt8.toNat_ofNat']
    omega
  refine ⟨⟨n / 0x40, 0x80, 0xBF, 0⟩, ?_, rfl, rfl, ?_⟩
  · simp only [lead?, Bool.and_eq_true, decide_eq_true_eq, UInt8.le_iff_toNat_le, hb,
      UInt8.reduceToNat, Nat.add_sub_cancel_left]
    rw [if_pos (by omega)]
  · simp only [UInt8.le_iff_toNat_le, toNat_trail, UInt8.reduceToNat]
    omega

/-- The first two bytes of `0x800 … 0xFFFF`, the surrogates left out. -/
theorem announces_three {n : Nat} (h : 0x800 ≤ n) (h' : n < 0x10000)
    (hs : ¬(0xD800 ≤ n ∧ n ≤ 0xDFFF)) :
    Announces (UInt8.ofNat (0xE0 + n / 0x1000)) (UInt8.ofNat (0x80 + n / 0x40 % 0x40))
      (n / 0x1000) 1 := by
  have hb : (UInt8.ofNat (0xE0 + n / 0x1000)).toNat = 0xE0 + n / 0x1000 := by
    rw [UInt8.toNat_ofNat']
    omega
  simp only [Announces, lead?, Bool.and_eq_true, decide_eq_true_eq, UInt8.le_iff_toNat_le,
    ← UInt8.toNat_inj, hb, toNat_trail, UInt8.reduceToNat, Nat.add_sub_cancel_left]
  rw [if_neg (by omega)]
  by_cases hE0 : n < 0x1000
  · rw [if_pos (by omega)]
    refine ⟨_, rfl, ?_, rfl, ?_, ?_⟩ <;> simp only [UInt8.reduceToNat] <;> omega
  rw [if_neg (by omega)]
  by_cases hED : n / 0x1000 = 0xD
  · rw [if_pos (by omega)]
    refine ⟨_, rfl, hED.symm, rfl, ?_, ?_⟩ <;> simp only [UInt8.reduceToNat] <;> omega
  rw [if_neg (by omega), if_pos (by omega)]
  refine ⟨_, rfl, rfl, rfl, ?_, ?_⟩ <;> simp only [UInt8.reduceToNat] <;> omega

/-- The first two bytes of `0x10000 … 0x10FFFF`. -/
theorem announces_four {n : Nat} (h : 0x10000 ≤ n) (h' : n < 0x110000) :
    Announces (UInt8.ofNat (0xF0 + n / 0x40000)) (UInt8.ofNat (0x80 + n / 0x1000 % 0x40))
      (n / 0x40000) 2 := by
  have hb : (UInt8.ofNat (0xF0 + n / 0x40000)).toNat = 0xF0 + n / 0x40000 := by
    rw [UInt8.toNat_ofNat']
    omega
  simp only [Announces, lead?, Bool.and_eq_true, decide_eq_true_eq, UInt8.le_iff_toNat_le,
    ← UInt8.toNat_inj, hb, toNat_trail, UInt8.reduceToNat, Nat.add_sub_cancel_left]
  rw [if_neg (by omega), if_neg (by omega), if_neg (by omega), if_neg (by omega)]
  by_cases hF0 : n < 0x40000
  · rw [if_pos (by omega)]
    refine ⟨_, rfl, ?_, rfl, ?_, ?_⟩ <;> simp only [UInt8.reduceToNat] <;> omega
  rw [if_neg (by omega)]
  by_cases hF4 : n / 0x40000 = 4
  · rw [if_pos (by omega)]
    refine ⟨_, rfl, hF4.symm, rfl, ?_, ?_⟩ <;> simp only [UInt8.reduceToNat] <;> omega
  rw [if_neg (by omega), if_pos (by omega)]
  refine ⟨_, rfl, rfl, rfl, ?_, ?_⟩ <;> simp only [UInt8.reduceToNat] <;> omega

/-- A byte that announces another is no single byte. -/
theorem Announces.not_single {b second : UInt8} {payload more : Nat}
    (h : Announces b second payload more) : ¬b < 0x80 := by
  obtain ⟨lead, hlead, -⟩ := h
  intro hb
  simp only [lead?, UInt8.lt_iff_toNat_lt, UInt8.le_iff_toNat_le, ← UInt8.toNat_inj,
    UInt8.reduceToNat, Bool.and_eq_true, decide_eq_true_eq] at hb hlead
  split_ifs at hlead <;> omega

/-! ## Steps -/

/-- A first byte that announces more is read with the second, and the others follow. -/
theorem step_announced {b : UInt8} {n payload more : Nat} (rest : Bytes)
    (h : Announces b (UInt8.ofNat (0x80 + n % 0x40)) payload more) :
    step b (UInt8.ofNat (0x80 + n % 0x40) :: rest) =
      trail more (payload * 0x40 + n % 0x40) 2 rest := by
  have hb := h.not_single
  obtain ⟨lead, hlead, rfl, rfl, hlow, hhigh⟩ := h
  have hin : (decide (lead.low ≤ UInt8.ofNat (0x80 + n % 0x40)) &&
      decide (UInt8.ofNat (0x80 + n % 0x40) ≤ lead.high)) = true := by
    rw [decide_eq_true hlow, decide_eq_true hhigh, Bool.and_self]
  simp only [step, if_neg hb, hlead, if_pos hin, toNat_trail, Nat.add_sub_cancel_left]

/-- Only one first byte is read differently where surrogates are allowed. -/
theorem stepWith_of_ne {b : UInt8} (h : b ≠ 0xED) (surrogates : Bool) (bytes : Bytes) :
    stepWith surrogates b bytes = step b bytes := by
  unfold stepWith
  split
  · exact absurd rfl h
  · rfl

/-- A step reads the bytes of a surrogate as the surrogate. -/
theorem stepWith_surrogate {n : Nat} (h : 0xD800 ≤ n) (h' : n ≤ 0xDFFF) (rest : Bytes) :
    stepWith true 0xED
        (UInt8.ofNat (0x80 + n / 0x40 % 0x40) :: UInt8.ofNat (0x80 + n % 0x40) :: rest) =
      .point (CodePoint.ofNat n) rest := by
  have hin : (decide (0xA0 ≤ UInt8.ofNat (0x80 + n / 0x40 % 0x40)) &&
      decide (UInt8.ofNat (0x80 + n / 0x40 % 0x40) ≤ 0xBF) &&
      isTrail (UInt8.ofNat (0x80 + n % 0x40))) = true := by
    simp only [isTrail_ofNat, Bool.and_true, Bool.and_eq_true, decide_eq_true_eq,
      UInt8.le_iff_toNat_le, toNat_trail, UInt8.reduceToNat]
    omega
  simp only [stepWith, if_pos hin, toNat_trail, Nat.add_sub_cancel_left]
  congr 2
  omega

/-- A step that may read surrogates reads all else as one that may not. -/
theorem stepWith_of_low {n : Nat} (h : n % 0x40 < 0x20) (rest : Bytes) (surrogates : Bool)
    (b : UInt8) :
    stepWith surrogates b (UInt8.ofNat (0x80 + n % 0x40) :: rest) =
      step b (UInt8.ofNat (0x80 + n % 0x40) :: rest) := by
  unfold stepWith
  split
  · next second third rest' _ heq =>
    obtain ⟨rfl, rfl⟩ := List.cons.inj heq
    rw [if_neg]
    simp only [Bool.and_eq_true, decide_eq_true_eq, UInt8.le_iff_toNat_le, toNat_trail,
      UInt8.reduceToNat]
    omega
  · rfl

/-- **A step reads one code point.** It takes the bytes of a code point, and leaves
those that follow. -/
theorem stepWith_encodePoint (c : CodePoint) (rest : Bytes) :
    ∃ b bytes, encodePoint c = b :: bytes ∧ stepWith true b (bytes ++ rest) = .point c rest := by
  have hlt := c.isLt
  rw [← CodePoint.ofNat_val c]
  generalize hn : c.val = n at hlt
  have hval : (CodePoint.ofNat n).val = n := CodePoint.val_ofNat hlt
  simp only [encodePoint, hval]
  by_cases h1 : n < 0x80
  · rw [if_pos h1]
    have hb : (UInt8.ofNat n).toNat = n := by
      rw [UInt8.toNat_ofNat']
      omega
    refine ⟨_, _, rfl, ?_⟩
    have hne : UInt8.ofNat n ≠ 0xED := by
      simp only [Ne, ← UInt8.toNat_inj, hb, UInt8.reduceToNat]
      omega
    rw [stepWith_of_ne hne, step, if_pos, hb, List.nil_append]
    rwa [UInt8.lt_iff_toNat_lt, hb]
  rw [if_neg h1]
  by_cases h2 : n < 0x800
  · rw [if_pos h2]
    refine ⟨_, _, rfl, ?_⟩
    have hne : UInt8.ofNat (0xC0 + n / 0x40) ≠ 0xED := by
      simp only [Ne, ← UInt8.toNat_inj, UInt8.toNat_ofNat', UInt8.reduceToNat]
      omega
    rw [stepWith_of_ne hne, List.singleton_append,
      step_announced rest (announces_two (by omega) h2), trail]
    congr 2
    omega
  rw [if_neg h2]
  by_cases h3 : n < 0x10000
  · rw [if_pos h3]
    refine ⟨_, _, rfl, ?_⟩
    by_cases hs : 0xD800 ≤ n ∧ n ≤ 0xDFFF
    · have hED : UInt8.ofNat (0xE0 + n / 0x1000) = 0xED := by
        simp only [← UInt8.toNat_inj, UInt8.toNat_ofNat', UInt8.reduceToNat]
        omega
      rw [hED]
      exact stepWith_surrogate hs.1 hs.2 rest
    · have hstep : ∀ bytes, stepWith true (UInt8.ofNat (0xE0 + n / 0x1000))
          (UInt8.ofNat (0x80 + n / 0x40 % 0x40) :: bytes) =
            step (UInt8.ofNat (0xE0 + n / 0x1000))
              (UInt8.ofNat (0x80 + n / 0x40 % 0x40) :: bytes) := by
        intro bytes
        by_cases hED : n / 0x1000 = 0xD
        · exact stepWith_of_low (by omega) ..
        · apply stepWith_of_ne
          simp only [Ne, ← UInt8.toNat_inj, UInt8.toNat_ofNat', UInt8.reduceToNat]
          omega
      rw [List.cons_append, List.singleton_append, hstep,
        step_announced _ (announces_three (by omega) h3 hs), trail_ofNat, trail]
      congr 2
      omega
  · rw [if_neg h3]
    refine ⟨_, _, rfl, ?_⟩
    have hne : UInt8.ofNat (0xF0 + n / 0x40000) ≠ 0xED := by
      simp only [Ne, ← UInt8.toNat_inj, UInt8.toNat_ofNat', UInt8.reduceToNat]
      omega
    rw [stepWith_of_ne hne, List.cons_append, List.cons_append, List.singleton_append,
      step_announced _ (announces_four (by omega) hlt), trail_ofNat, trail_ofNat, trail]
    congr 2
    omega

/-! ## Texts -/

@[simp] theorem encode_nil : encode [] = [] := rfl

@[simp] theorem encode_cons (c : CodePoint) (t : Text) :
    encode (c :: t) = encodePoint c ++ encode t := List.flatMap_cons

/-- Two texts are encoded one after the other. -/
theorem encode_append (t u : Text) : encode (t ++ u) = encode t ++ encode u :=
  List.flatMap_append

/-- What is encoded is read back behind what was read before, surrogates included where they are
allowed. -/
theorem decodeFrom_encode (t : Text) (offset : Nat) (done : Text) :
    decodeFrom true offset done (encode t) = .ok (done.reverse ++ t) := by
  induction t generalizing offset done with
  | nil => rw [encode_nil, decodeFrom, List.append_nil]
  | cons c t ih =>
    obtain ⟨b, bytes, hc, hstep⟩ := stepWith_encodePoint c (encode t)
    rw [encode_cons, hc, List.cons_append, decodeFrom]
    split
    · next c' rest h =>
      obtain ⟨rfl, rfl⟩ : c = c' ∧ encode t = rest := by
        rw [hstep] at h
        exact Step.point.inj h
      rw [ih, List.reverse_cons, List.append_assoc, List.singleton_append]
    · next h =>
      rw [hstep] at h
      cases h

/-- **Every text is read back from its bytes**, surrogates included. -/
theorem decodePassing_encode (t : Text) : decodePassing (encode t) = .ok t :=
  decodeFrom_encode t 0 []

end Utf8
end Hotspot
