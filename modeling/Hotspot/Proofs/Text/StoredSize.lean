/-
# Sizes of stored strings

A text has as many bytes on file as in UTF-8, but for the code points that modified UTF-8
spells in its own way:

| code point | UTF-8 | on file |
| --- | ---: | ---: |
| `0` | 1 | 2 |
| `1 … FFFF` | 1 to 3 | the same |
| `10000 … 10FFFF` | 4 | 6 |

A payload that is read and written again grows by as much, a byte for each `NUL` that is
a byte `00` and two for each sequence of four (`length_encode_of_decode`). Neither the
joining of pairs nor a `NUL` that is `C0 80` has a part in it, as they are undone by the
writing.
-/

import Hotspot.Proofs.Text.Ascii
import Hotspot.Proofs.Text.Grammar
import Hotspot.Proofs.Text.StoredWriting

namespace Hotspot

/-- A text takes as many bytes of UTF-8 as its size says. -/
theorem Utf8.length_encode (t : Text) : (Utf8.encode t).length = Utf8.size t := by
  induction t with
  | nil => rfl
  | cons c t ih =>
    rw [Utf8.encode_cons, List.length_append, Utf8.length_encodePoint, ih, Utf8.size_cons]

namespace StoredString

variable {payload : Bytes} {t : Text} {c : CodePoint}

/-! ## Texts -/

/-- A supplementary code point takes six bytes on file. -/
theorem length_encodePoint_of_ge (h : 0x10000 ≤ c.val) : (encodePoint c).length = 6 := by
  -- both surrogates lie in the range of three bytes
  have hhigh := CodePoint.isHighSurrogate_iff.1 (CodePoint.isHighSurrogate_split c)
  have hlow := CodePoint.isLowSurrogate_iff.1 (CodePoint.isLowSurrogate_split c)
  have h0 : c ≠ 0 := by
    rintro rfl
    exact absurd h (by decide)
  rw [encodePoint, if_neg h0, if_neg (by omega), List.length_append, Utf8.length_encodePoint,
    Utf8.length_encodePoint, Utf8.width, Utf8.width, if_neg (by omega), if_neg (by omega),
    if_pos (by omega), if_neg (by omega), if_neg (by omega), if_pos (by omega)]

/-- A code point takes a byte more than in UTF-8 if it is `NUL`, and two more if it is
supplementary. -/
theorem length_encodePoint (c : CodePoint) :
    (encodePoint c).length =
      Utf8.width c + (if c = 0 then 1 else 0) + (if 0x10000 ≤ c.val then 2 else 0) := by
  by_cases h0 : c = 0
  · subst h0
    rfl
  by_cases h : c.val < 0x10000
  · rw [encodePoint_of_lt h0 h, Utf8.length_encodePoint, if_neg h0, if_neg (by omega),
      Nat.add_zero]
  · have hwidth : Utf8.width c = 4 := by
      rw [Utf8.width, if_neg (by omega), if_neg (by omega), if_neg h]
    rw [length_encodePoint_of_ge (by omega), if_neg h0, if_pos (by omega), hwidth]

/-- **The size of a text on file.** -/
theorem length_encode (t : Text) :
    (encode t).length =
      Utf8.size t + t.count 0 + 2 * t.countP (fun c => 0x10000 ≤ c.val) := by
  induction t with
  | nil => rfl
  | cons c t ih =>
    rw [encode_cons, List.length_append, length_encodePoint, ih, Utf8.size_cons, List.count_cons,
      List.countP_cons]
    simp only [beq_iff_eq, decide_eq_true_eq]
    split_ifs <;> omega

/-- What modified UTF-8 adds to a code point is no more than its bytes in UTF-8. -/
theorem count_add_countP_le (t : Text) :
    t.count 0 + 2 * t.countP (fun c => 0x10000 ≤ c.val) ≤ Utf8.size t := by
  induction t with
  | nil => exact Nat.le_refl 0
  | cons c t ih =>
    have hwidth : 1 ≤ Utf8.width c ∧ (0x10000 ≤ c.val → Utf8.width c = 4) := by
      unfold Utf8.width
      split_ifs <;> omega
    have h0 : c = 0 → ¬0x10000 ≤ c.val := by
      rintro rfl
      decide
    rw [Utf8.size_cons, List.count_cons, List.countP_cons]
    simp only [beq_iff_eq, decide_eq_true_eq]
    split_ifs <;> omega

/-- On file no text takes more than twice its bytes in UTF-8. -/
theorem length_encode_le (t : Text) : (encode t).length ≤ 2 * Utf8.size t := by
  have hadd := count_add_countP_le t
  rw [length_encode]
  omega

/-! ## Payloads -/

/-- A byte opens a sequence of four. -/
def opensFour (b : UInt8) : Bool := 0xF0 ≤ b && b ≤ 0xF4

/-- The size of what is written of a payload: a byte `00` takes one byte more than it had,
and a sequence of four two more. -/
def rewrittenSize (payload : Bytes) : Nat :=
  payload.length + payload.count 0 + 2 * payload.countP opensFour

/-- The size after rewriting adds up. -/
theorem rewrittenSize_append (bytes rest : Bytes) :
    rewrittenSize (bytes ++ rest) = rewrittenSize bytes + rewrittenSize rest := by
  simp only [rewrittenSize, List.length_append, List.count_append, List.countP_append]
  omega

/-- A plain payload keeps its size. -/
theorem rewrittenSize_of_isPlain (h : IsPlain payload) :
    rewrittenSize payload = payload.length := by
  have h0 : payload.count 0 = 0 := List.count_eq_zero.2 fun hmem => (h 0 hmem).1 rfl
  have h4 : payload.countP opensFour = 0 := by
    rw [List.countP_eq_zero]
    intro b hb
    rw [opensFour, Bool.and_eq_true, decide_eq_true_eq, decide_eq_true_eq]
    exact (h b hb).2
  rw [rewrittenSize, h0, h4, Nat.add_zero]

/-- A supplementary code point takes four bytes of UTF-8, the first of which tells. -/
theorem countP_opensFour_encodePoint (h : 0x10000 ≤ c.val) :
    (Utf8.encodePoint c).countP opensFour = 1 := by
  have := c.isLt
  simp only [Utf8.encodePoint]
  rw [if_neg (by omega), if_neg (by omega), if_neg (by omega)]
  simp only [List.countP_cons, List.countP_nil, opensFour, Bool.and_eq_true, decide_eq_true_eq,
    UInt8.le_iff_toNat_le, UInt8.toNat_ofNat', UInt8.reduceToNat]
  rw [if_neg (by omega), if_neg (by omega), if_neg (by omega), if_pos (by omega)]

/-- So the size on file can be told from the bytes of UTF-8. -/
theorem length_encodePoint_eq_rewrittenSize (c : CodePoint) :
    (encodePoint c).length = rewrittenSize (Utf8.encodePoint c) := by
  by_cases h0 : c = 0
  · subst h0
    rfl
  by_cases h : c.val < 0x10000
  · rw [encodePoint_of_lt h0 h, rewrittenSize_of_isPlain (isPlain_encodePoint h0 h)]
  · have hzero : (Utf8.encodePoint c).count 0 = 0 :=
      List.count_eq_zero.2 fun hmem => ne_zero_of_mem_encodePoint h0 0 hmem rfl
    rw [length_encodePoint, rewrittenSize, hzero, countP_opensFour_encodePoint (by omega),
      Utf8.length_encodePoint, if_neg h0, if_pos (by omega)]

/-- What is written for a sequence has the size that the sequence announces. -/
theorem length_encodePoint_point (s : Sequence) :
    (encodePoint s.point).length = rewrittenSize s.bytes := by
  rcases s.eq_nul_or_ofPoint with hs | hs
  · rw [hs]
    rfl
  · rw [length_encodePoint_eq_rewrittenSize, ← Sequence.bytes_ofPoint, ← hs]

/-- So what is written for a chain has the size that its sequences announce. -/
theorem length_encode_map_point (parse : List Sequence) :
    (encode (parse.map Sequence.point)).length = rewrittenSize (chain parse) := by
  induction parse with
  | nil => rfl
  | cons s parse ih =>
    rw [List.map_cons, encode_cons, List.length_append, length_encodePoint_point, ih, chain_cons,
      rewrittenSize_append]

/-- **The size of a payload that is read and written again.** -/
theorem length_encode_of_decode (h : decode payload = .ok t) :
    (encode t).length = rewrittenSize payload := by
  rw [decode] at h
  cases hread : Utf8.decodePassing (foldNul payload) with
  | error fault =>
    rw [hread] at h
    cases h
  | ok u =>
    rw [hread] at h
    obtain rfl := Except.ok.inj h
    obtain ⟨parse, rfl, rfl⟩ := decodePassing_foldNul_iff.1 hread
    rw [encode_joinPairs, length_encode_map_point]

/-! ## Bytes `00` -/

/-- Bytes `00` are read as `NUL`, one each. -/
theorem decode_replicate_zero (n : Nat) :
    decode (List.replicate n 0) = .ok (List.replicate n 0) := by
  have hchain : Utf8.decodePassing (foldNul (List.replicate n 0)) = .ok (List.replicate n 0) := by
    refine decodePassing_foldNul_iff.2 ⟨List.replicate n (Sequence.ofPoint 0), ?_, ?_⟩
    · rw [chain, List.flatMap_replicate]
      exact List.flatten_replicate_singleton
    · rw [List.map_replicate, Sequence.point_ofPoint]
  have hsurrogate : Text.hasSurrogate (List.replicate n 0) = false := by
    rw [Text.hasSurrogate, List.any_replicate]
    split <;> rfl
  rw [decode, hchain, Except.map, Text.joinPairs_eq_pairUp,
    Text.pairUp_of_not_hasSurrogate hsurrogate]

/-- They take two bytes each when they are written again. -/
theorem rewrittenSize_replicate_zero (n : Nat) : rewrittenSize (List.replicate n 0) = 2 * n := by
  have h4 : (List.replicate n (0 : UInt8)).countP opensFour = 0 := by
    rw [List.countP_replicate]
    rfl
  rw [rewrittenSize, List.length_replicate, List.count_replicate_self, h4]
  omega

end StoredString
end Hotspot
