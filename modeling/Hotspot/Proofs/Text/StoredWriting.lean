/-
# Writing back stored strings

A stored string is read from more bytes than are written of it: a `NUL` may be a
byte `00`, and a supplementary code point may be one sequence of four bytes. These
are the only liberties. A payload without a byte `00` and without a byte
`F0 … F4`, which opens a sequence of four, is what is written of the text read
from it, and no other payload is (`encode_eq_iff`).

| read | written |
| --- | --- |
| `00` | `C0 80` |
| `F0 9F 98 80` | `ED A0 BD ED B8 80` |
| any other sequence | the same |

In what is written each 16-bit unit of the text stands by itself, in one to three
bytes as its size asks for (`exists_units`).
-/

import Hotspot.Proofs.Text.StoredReading
import Hotspot.Proofs.Text.Utf8Writing

namespace Hotspot
namespace StoredString

variable {payload : Bytes} {t : Text} {c : CodePoint}

/-- No byte of a payload is `00` or opens a sequence of four bytes. -/
def IsPlain (payload : Bytes) : Prop :=
  ∀ b ∈ payload, b ≠ 0 ∧ ¬(0xF0 ≤ b ∧ b ≤ 0xF4)

instance (payload : Bytes) : Decidable (IsPlain payload) :=
  List.decidableBAll _ payload

/-! ## What is written is plain -/

/-- Two payloads are plain together just if both are. -/
theorem isPlain_append {payload' : Bytes} :
    IsPlain (payload ++ payload') ↔ IsPlain payload ∧ IsPlain payload' :=
  List.forall_mem_append

/-- In the first plane, and but for `NUL`, a code point is stored in its UTF-8. -/
theorem encodePoint_of_lt (h0 : c ≠ 0) (h : c.val < 0x10000) :
    encodePoint c = Utf8.encodePoint c := by
  rw [encodePoint, if_neg h0, if_pos h]

/-- One, two or three bytes of UTF-8 are plain, if they are no `NUL`. -/
theorem isPlain_encodePoint (h0 : c ≠ 0) (h : c.val < 0x10000) :
    IsPlain (Utf8.encodePoint c) := by
  have hpos : c.val ≠ 0 := fun h => h0 (Fin.ext h)
  simp only [IsPlain, Utf8.encodePoint, ← UInt8.toNat_inj, UInt8.le_iff_toNat_le,
    UInt8.reduceToNat, Ne]
  rw [if_pos h]
  split_ifs <;>
    simp only [List.mem_cons, List.not_mem_nil, or_false, forall_eq_or_imp, forall_eq,
      UInt8.toNat_ofNat'] <;>
    omega

/-- What is written is plain: a `NUL` is spelled in two bytes, and a supplementary code point as
two surrogates. -/
theorem isPlain_encode (t : Text) : IsPlain (encode t) := by
  induction t with
  | nil => exact nofun
  | cons c t ih =>
    rw [encode_cons, isPlain_append]
    refine ⟨?_, ih⟩
    rw [encodePoint]
    split
    · decide
    · next h0 =>
      split
      · next h => exact isPlain_encodePoint h0 h
      · have hhigh := CodePoint.isHighSurrogate_iff.1 (CodePoint.isHighSurrogate_split c)
        have hlow := CodePoint.isLowSurrogate_iff.1 (CodePoint.isLowSurrogate_split c)
        refine isPlain_append.2 ⟨isPlain_encodePoint (fun h => ?_) (by omega),
          isPlain_encodePoint (fun h => ?_) (by omega)⟩
        · rw [h] at hhigh
          exact absurd hhigh.1 (by decide)
        · rw [h] at hlow
          exact absurd hlow.1 (by decide)

/-! ## Joining pairs changes no bytes -/

/-- A pair is stored as its two halves, joined or not. -/
theorem encodePoint_join {high low : CodePoint} (hh : high.isHighSurrogate = true)
    (hl : low.isLowSurrogate = true) :
    encodePoint (high.join low) = encodePoint high ++ encodePoint low := by
  have hval := CodePoint.join_val hh hl
  have hsplit := CodePoint.split_join hh hl
  rw [CodePoint.isHighSurrogate_iff] at hh
  rw [CodePoint.isLowSurrogate_iff] at hl
  have hne {c : CodePoint} (h : 0xD800 ≤ c.val) : c ≠ 0 := by
    rintro rfl
    exact absurd h (by decide)
  rw [encodePoint_of_lt (c := high) (hne hh.1) (by omega),
    encodePoint_of_lt (c := low) (hne (by omega)) (by omega), encodePoint,
    if_neg (hne (by omega)), if_neg (by omega), hsplit]

/-- So joining changes nothing of what is stored. -/
theorem encode_glue (c : CodePoint) (t : Text) :
    encode (Text.glue c t) = encodePoint c ++ encode t := by
  unfold Text.glue
  split
  · next d rest =>
    split
    · next hpair =>
      rw [Bool.and_eq_true] at hpair
      rw [encode_cons, encodePoint_join hpair.1 hpair.2, encode_cons, List.append_assoc]
    · exact encode_cons ..
  · exact encode_cons ..

/-- A text has the same bytes as with its pairs joined. -/
theorem encode_joinPairs (t : Text) : encode t.joinPairs = encode t := by
  induction t with
  | nil => rfl
  | cons c t ih => rw [Text.joinPairs_cons, encode_glue, ih, encode_cons]

/-- So a text is stored as its paired form is. -/
theorem encode_pairUp (t : Text) : encode t.pairUp = encode t := by
  rw [← Text.joinPairs_eq_pairUp, encode_joinPairs]

/-- Two texts have the same bytes exactly if they are the same with their pairs joined. -/
theorem encode_eq_encode_iff {t' : Text} : encode t = encode t' ↔ t.pairUp = t'.pairUp := by
  constructor
  · intro h
    have hread := congrArg decode h
    rwa [decode_encode, decode_encode, Except.ok.injEq] at hread
  · intro h
    rw [← encode_pairUp t, h, encode_pairUp]

/-- Pairs are joined once and for all. -/
theorem pairUp_pairUp (t : Text) : t.pairUp.pairUp = t.pairUp :=
  encode_eq_encode_iff.1 (encode_pairUp t)

/-- The pairs of a text that was read are joined. -/
theorem pairUp_of_decode (h : decode payload = .ok t) : t.pairUp = t := by
  rw [decode] at h
  cases hread : Utf8.decodePassing (foldNul payload) with
  | error fault =>
    rw [hread] at h
    cases h
  | ok u =>
    rw [hread] at h
    obtain rfl := Except.ok.inj h
    rw [Text.joinPairs_eq_pairUp, pairUp_pairUp]

/-! ## Spelling `NUL` -/

/-- A byte as it is spelled in what is written. -/
def spell (b : UInt8) : Bytes := if b = 0 then [0xC0, 0x80] else [b]

/-- Only a `NUL` is spelled in another way. -/
theorem flatMap_spell {bytes : Bytes} (h0 : ∀ b ∈ bytes, b ≠ 0) : bytes.flatMap spell = bytes := by
  induction bytes with
  | nil => rfl
  | cons b bytes ih =>
    rw [List.forall_mem_cons] at h0
    rw [List.flatMap_cons, spell, if_neg h0.1, ih h0.2, List.singleton_append]

/-- Spelling undoes the folding of a payload without `00`. -/
theorem flatMap_spell_foldNul (h0 : ∀ b ∈ payload, b ≠ 0)
    (hC0 : ∀ b ∈ foldNul payload, b ≠ 0xC0) : (foldNul payload).flatMap spell = payload := by
  induction payload with
  | nil => rfl
  | cons b payload ih =>
    rw [List.forall_mem_cons] at h0
    rw [foldNul_cons] at hC0 ⊢
    unfold glueNul at hC0 ⊢
    split at hC0
    · next rest hrest =>
      have hspelled := ih h0.2 (by
        rw [hrest, List.forall_mem_cons]
        exact ⟨by decide, fun b hb => hC0 b (List.mem_cons_of_mem _ hb)⟩)
      rw [hrest, List.flatMap_cons] at hspelled
      rw [List.flatMap_cons, ← hspelled]
      rfl
    · rw [List.forall_mem_cons] at hC0
      rw [List.flatMap_cons, spell, if_neg h0.1, ih h0.2 hC0.2, List.singleton_append]

/-- Folding gives no bytes that are new but `NUL`. -/
theorem mem_of_mem_foldNul {b : UInt8} (h : b ∈ foldNul payload) : b ∈ payload ∨ b = 0 := by
  induction payload with
  | nil => exact .inl h
  | cons b' payload ih =>
    rw [foldNul_cons] at h
    unfold glueNul at h
    split at h
    · next rest hrest =>
      rcases List.mem_cons.1 h with rfl | h
      · exact .inr rfl
      · exact (ih (hrest ▸ List.mem_cons_of_mem _ h)).imp_left (List.mem_cons_of_mem _)
    · rcases List.mem_cons.1 h with rfl | h
      · exact .inl List.mem_cons_self
      · exact (ih h).imp_left (List.mem_cons_of_mem _)

/-- UTF-8 is spelled as what is written, where no code point takes four bytes. -/
theorem flatMap_spell_encode (h : ∀ c ∈ t, c.val < 0x10000) :
    (Utf8.encode t).flatMap spell = encode t := by
  induction t with
  | nil => rfl
  | cons c t ih =>
    rw [List.forall_mem_cons] at h
    rw [Utf8.encode_cons, List.flatMap_append, ih h.2, encode_cons]
    by_cases h0 : c = 0
    · subst h0
      rfl
    · rw [encodePoint_of_lt h0 h.1,
        flatMap_spell fun b hb => (isPlain_encodePoint h0 h.1 b hb).1]

/-! ## What is read -/

/-- The first of four bytes. -/
theorem exists_mem_encodePoint (h : 0x10000 ≤ c.val) :
    ∃ b ∈ Utf8.encodePoint c, 0xF0 ≤ b ∧ b ≤ 0xF4 := by
  have hlt := c.isLt
  refine ⟨UInt8.ofNat (0xF0 + c.val / 0x40000), ?_, ?_⟩
  · simp only [Utf8.encodePoint]
    rw [if_neg (by omega), if_neg (by omega), if_neg (by omega)]
    exact List.mem_cons_self
  · simp only [UInt8.le_iff_toNat_le, UInt8.toNat_ofNat', UInt8.reduceToNat]
    omega

/-- **A payload is written back exactly if it is plain.** -/
theorem encode_eq_iff (h : decode payload = .ok t) : encode t = payload ↔ IsPlain payload := by
  constructor
  · rintro rfl
    exact isPlain_encode t
  · intro hplain
    rw [decode] at h
    cases hread : Utf8.decodePassing (foldNul payload) with
    | error fault =>
      rw [hread] at h
      cases h
    | ok u =>
      rw [hread] at h
      obtain rfl := Except.ok.inj h
      have hu := Utf8.encode_of_decodePassing hread
      -- no UTF-8 has a byte `C0`, so after folding a `NUL` is a byte `00` and nothing else
      have hC0 : ∀ b ∈ foldNul payload, b ≠ 0xC0 := by
        rw [← hu]
        intro b hb
        obtain ⟨c, -, hc⟩ := List.mem_flatMap.1 hb
        exact ne_C0_of_mem_encodePoint c b hc
      -- a supplementary code point was read from four bytes, since pairs are joined later
      have hlt : ∀ c ∈ u, c.val < 0x10000 := by
        intro c hc
        by_contra hge
        obtain ⟨b, hb, hfour⟩ := exists_mem_encodePoint (Nat.le_of_not_lt hge)
        have hmem : b ∈ foldNul payload := hu ▸ List.mem_flatMap.2 ⟨c, hc, hb⟩
        rcases mem_of_mem_foldNul hmem with hmem | rfl
        · exact (hplain b hmem).2 hfour
        · exact absurd hfour (by decide)
      rw [encode_joinPairs, ← flatMap_spell_encode hlt, hu,
        flatMap_spell_foldNul (fun b hb => (hplain b hb).1) hC0]

/-! ## Units -/

/-- The bytes of a 16-bit unit: one for `1 … 7F`, two up to `7FF`, three beyond. -/
def unitBytes (u : UInt16) : Bytes :=
  let n := u.toNat
  if 1 ≤ n ∧ n ≤ 0x7F then [UInt8.ofNat n]
  else if n ≤ 0x7FF then [UInt8.ofNat (0xC0 + n / 0x40), UInt8.ofNat (0x80 + n % 0x40)]
  else [UInt8.ofNat (0xE0 + n / 0x1000), UInt8.ofNat (0x80 + n / 0x40 % 0x40),
    UInt8.ofNat (0x80 + n % 0x40)]

/-- Modified UTF-8: 16-bit units, each by itself. -/
def ofUnits (units : List UInt16) : Bytes := units.flatMap unitBytes

/-- The code point of a unit. -/
def unitPoint (u : UInt16) : CodePoint := CodePoint.ofNat u.toNat

/-- A unit is a code point of the first plane. -/
theorem unitPoint_val (u : UInt16) : (unitPoint u).val = u.toNat :=
  CodePoint.val_ofNat (Nat.lt_trans u.toNat_lt (by decide))

/-- It is stored in the bytes of the unit. -/
theorem encodePoint_unitPoint (u : UInt16) : encodePoint (unitPoint u) = unitBytes u := by
  have hlt := u.toNat_lt
  have hval := unitPoint_val u
  rw [unitBytes]
  by_cases h0 : unitPoint u = 0
  · have hzero : u.toNat = 0 := by rw [← hval, h0]; rfl
    rw [encodePoint, if_pos h0, hzero]
    rfl
  · have hpos : u.toNat ≠ 0 := fun h => h0 (Fin.ext (hval.trans h))
    rw [encodePoint_of_lt h0 (by omega)]
    simp only [Utf8.encodePoint, hval]
    split_ifs <;> first | rfl | omega

/-- So units are stored one by one. -/
theorem encode_map_unitPoint (units : List UInt16) :
    encode (units.map unitPoint) = ofUnits units := by
  rw [encode, List.flatMap_map, ofUnits]
  exact List.flatMap_congr fun u _ => encodePoint_unitPoint u

/-- The units of a text are all of the first plane. -/
theorem lt_of_mem_units (h : c ∈ t.units) : c.val < 0x10000 := by
  obtain ⟨d, -, hd⟩ := List.mem_flatMap.1 h
  unfold Text.pointUnits at hd
  split at hd
  · next hlt => rwa [List.mem_singleton.1 hd]
  · have hhigh := CodePoint.isHighSurrogate_iff.1 (CodePoint.isHighSurrogate_split d)
    have hlow := CodePoint.isLowSurrogate_iff.1 (CodePoint.isLowSurrogate_split d)
    rcases List.mem_pair.1 hd with hc | hc
    · rw [hc]
      omega
    · rw [hc]
      omega

/-- **What is written is modified UTF-8.** -/
theorem exists_units (t : Text) : ∃ units, encode t = ofUnits units := by
  refine ⟨t.units.map fun c => UInt16.ofNat c.val, ?_⟩
  have hpoints : (t.units.map fun c => UInt16.ofNat c.val).map unitPoint = t.units := by
    rw [List.map_map]
    refine (List.map_congr_left fun c hc => Fin.ext ?_).trans (List.map_id _)
    rw [Function.comp_apply, unitPoint_val, UInt16.toNat_ofNat', id]
    exact Nat.mod_eq_of_lt (lt_of_mem_units hc)
  rw [← encode_map_unitPoint, hpoints, ← encode_joinPairs, ← Text.joinPairs_units,
    encode_joinPairs]

end StoredString
end Hotspot
