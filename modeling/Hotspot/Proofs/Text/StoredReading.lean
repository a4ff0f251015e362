/-
# Reading back stored strings

A stored string is read by folding `C0 80` to `00`, reading lenient UTF-8 and
joining surrogate pairs. On what was written the three undo each other in turn:
folding leaves the UTF-8 of the 16-bit units of the text (`foldNul_encode`), no
byte of which is `C0`, and joining those units joins the pairs of the text. So a
text comes back with its pairs joined, and nothing else is changed
(`decode_encode`).
-/

import Hotspot.Proofs.Text.Pairing
import Hotspot.Proofs.Text.Utf8Reading
import Hotspot.StoredString

namespace Hotspot
namespace StoredString

/-- No other byte than `C0` starts a stored `NUL`. -/
theorem glueNul_of_ne {b : UInt8} (h : b ≠ 0xC0) (bytes : Bytes) :
    glueNul b bytes = b :: bytes := by
  unfold glueNul
  split
  · exact absurd rfl h
  · rfl

/-- Bytes without `C0` are left as they are. -/
theorem foldNul_append {bytes : Bytes} (h : ∀ b ∈ bytes, b ≠ 0xC0) (rest : Bytes) :
    foldNul (bytes ++ rest) = bytes ++ foldNul rest := by
  induction bytes with
  | nil => rfl
  | cons b bytes ih =>
    rw [List.cons_append, foldNul_cons, ih fun c hc => h c (List.mem_cons_of_mem b hc),
      glueNul_of_ne (h b List.mem_cons_self), List.cons_append]

/-- `C0` opens no shortest form, so UTF-8 does without it. -/
theorem ne_C0_of_mem_encodePoint (c : CodePoint) : ∀ b ∈ Utf8.encodePoint c, b ≠ 0xC0 := by
  have := c.isLt
  simp only [Utf8.encodePoint, ← UInt8.toNat_inj, UInt8.reduceToNat, Ne]
  split_ifs <;>
    simp only [List.mem_cons, List.not_mem_nil, or_false, forall_eq_or_imp, forall_eq,
      UInt8.toNat_ofNat'] <;>
    omega

/-- Folding turns the written form of a code point into the UTF-8 of its units. -/
theorem foldNul_encodePoint (c : CodePoint) (rest : Bytes) :
    foldNul (encodePoint c ++ rest) = Utf8.encode (Text.pointUnits c) ++ foldNul rest := by
  unfold encodePoint Text.pointUnits
  by_cases h0 : c = 0
  · subst h0
    rw [if_pos rfl, if_pos (by decide)]
    rfl
  rw [if_neg h0]
  by_cases h : c.val < 0x10000
  · rw [if_pos h, if_pos h, foldNul_append (ne_C0_of_mem_encodePoint c), Utf8.encode_cons,
      Utf8.encode_nil, List.append_nil]
  · rw [if_neg h, if_neg h, List.append_assoc, foldNul_append (ne_C0_of_mem_encodePoint _),
      foldNul_append (ne_C0_of_mem_encodePoint _), Utf8.encode_cons, Utf8.encode_cons,
      Utf8.encode_nil, List.append_nil, List.append_assoc]

@[simp] theorem encode_cons (c : CodePoint) (t : Text) :
    encode (c :: t) = encodePoint c ++ encode t := List.flatMap_cons

/-- Folding turns the written form of a text into the UTF-8 of its units. -/
theorem foldNul_encode (t : Text) : foldNul (encode t) = Utf8.encode t.units := by
  induction t with
  | nil => rfl
  | cons c t ih =>
    rw [encode_cons, foldNul_encodePoint, ih, Text.units_cons, Utf8.encode_append]

/-- **A stored text is read back with its surrogate pairs joined.** -/
theorem decode_encode (t : Text) : decode (encode t) = .ok t.pairUp := by
  rw [decode, foldNul_encode, Utf8.decodePassing_encode, Except.map, Text.joinPairs_units,
    Text.joinPairs_eq_pairUp]

end StoredString
end Hotspot
