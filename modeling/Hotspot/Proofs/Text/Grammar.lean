/-
# The grammar of stored strings

A stored string is read in three passes over all of it: `C0 80` is folded to `00`, the
bytes are read as lenient UTF-8, and surrogate pairs are joined. What comes of that can
be told from left to right. The bytes are a chain of sequences, each of which stands for
a code point, and the text is these code points with the pairs joined:

| first byte | second byte | bytes | code points |
| --- | --- | ---: | --- |
| `00 … 7F` | | 1 | `0 … 7F` |
| `C0` | `80` | 2 | `0` |
| `C2 … DF` | `80 … BF` | 2 | `80 … 7FF` |
| `E0` | `A0 … BF` | 3 | `800 … FFF` |
| `E1 … EF` | `80 … BF` | 3 | `1000 … FFFF` |
| `F0` | `90 … BF` | 4 | `10000 … 3FFFF` |
| `F1 … F3` | `80 … BF` | 4 | `40000 … FFFFF` |
| `F4` | `80 … 8F` | 4 | `100000 … 10FFFF` |

Each further byte is a trail byte. No byte `C0` is in a sequence but in `C0 80`, and no
byte `00` but in `00`. So the folding, which does not look where a sequence starts, folds
sequences as a whole and no two halves of others.
-/

import Hotspot.Proofs.Text.StoredReading
import Hotspot.Proofs.Text.Utf8Writing

namespace Hotspot
namespace StoredString

open Utf8 (isTrail extend)

/-! ## Sequences -/

/-- The bytes of a sequence, and the number of its code point. -/
inductive IsSequence : Bytes → Nat → Prop
  | one {b : UInt8} (hb : b ≤ 0x7F) : IsSequence [b] b.toNat
  | nul : IsSequence [0xC0, 0x80] 0
  | two {b second : UInt8} (hb : 0xC2 ≤ b ∧ b ≤ 0xDF) (hsecond : isTrail second = true) :
    IsSequence [b, second] (extend (b.toNat - 0xC0) second)
  | three {b second third : UInt8} (hb : b = 0xE0 ∧ 0xA0 ≤ second ∨ 0xE1 ≤ b ∧ b ≤ 0xEF)
    (hsecond : isTrail second = true) (hthird : isTrail third = true) :
    IsSequence [b, second, third] (extend (extend (b.toNat - 0xE0) second) third)
  | four {b second third fourth : UInt8}
    (hb : b = 0xF0 ∧ 0x90 ≤ second ∨ 0xF1 ≤ b ∧ b ≤ 0xF3 ∨ b = 0xF4 ∧ second ≤ 0x8F)
    (hsecond : isTrail second = true) (hthird : isTrail third = true)
    (hfourth : isTrail fourth = true) :
    IsSequence [b, second, third, fourth]
      (extend (extend (extend (b.toNat - 0xF0) second) third) fourth)

/-- A sequence. -/
structure Sequence where
  bytes : Bytes
  number : Nat
  isSequence : IsSequence bytes number

/-- The code point of a sequence. -/
def Sequence.point (s : Sequence) : CodePoint := CodePoint.ofNat s.number

/-- The bytes of a sequence after the folding. -/
def Sequence.folded (s : Sequence) : Bytes :=
  if s.bytes = [0xC0, 0x80] then [0x00] else s.bytes

/-- The bytes of a chain of sequences. -/
def chain (parse : List Sequence) : Bytes := parse.flatMap Sequence.bytes

/-! ## Sequences and the bytes of code points -/

variable {bytes rest raw : Bytes} {c : CodePoint} {n : Nat}

/-- A trailing byte adds six bits, and can be told from them. -/
theorem extend_of_isTrail {b : UInt8} (h : isTrail b = true) (payload : Nat) :
    payload * 0x40 ≤ extend payload b ∧ extend payload b < payload * 0x40 + 0x40 ∧
      UInt8.ofNat (0x80 + extend payload b % 0x40) = b ∧ extend payload b / 0x40 = payload :=
  Utf8.extend_of_trail (Utf8.isTrail_iff.1 h).1 (Utf8.isTrail_iff.1 h).2 payload

/-- Every sequence has a byte. -/
theorem IsSequence.ne_nil (h : IsSequence bytes n) : bytes ≠ [] := by
  cases h <;> exact List.cons_ne_nil _ _

/-- A sequence is `C0 80`, or the bytes of its code point in UTF-8. -/
theorem IsSequence.bytes_eq (h : IsSequence bytes n) : n < 0x110000 ∧
    (bytes = [0xC0, 0x80] ∧ n = 0 ∨ bytes = Utf8.encodePoint (CodePoint.ofNat n)) := by
  cases h with
  | nul => exact ⟨by decide, .inl ⟨rfl, rfl⟩⟩
  | one hb =>
    rw [UInt8.le_iff_toNat_le, show (0x7F : UInt8).toNat = 0x7F from rfl] at hb
    rw [Utf8.encodePoint_one (by omega), UInt8.ofNat_toNat]
    exact ⟨by omega, .inr rfl⟩
  | @two b second hb hsecond =>
    simp only [UInt8.le_iff_toNat_le, UInt8.reduceToNat] at hb
    obtain ⟨hge, hlt, hs, hn⟩ := extend_of_isTrail hsecond (b.toNat - 0xC0)
    rw [Utf8.encodePoint_two (by omega) (by omega), hs, hn, Nat.add_sub_cancel' (by omega),
      UInt8.ofNat_toNat]
    exact ⟨by omega, .inr rfl⟩
  | @three b second third hb hsecond hthird =>
    simp only [UInt8.le_iff_toNat_le, ← UInt8.toNat_inj, UInt8.reduceToNat] at hb
    obtain ⟨hge, hlt, hs, hn⟩ := extend_of_isTrail hsecond (b.toNat - 0xE0)
    obtain ⟨hge', hlt', ht, hn'⟩ := extend_of_isTrail hthird (extend (b.toNat - 0xE0) second)
    -- the second byte after `E0` keeps the number from having two bytes
    have hmin : 0x20 ≤ extend (b.toNat - 0xE0) second := by
      unfold extend at hge ⊢
      omega
    rw [Utf8.encodePoint_three (by omega) (by omega), ht, hn', hs, hn,
      Nat.add_sub_cancel' (by omega), UInt8.ofNat_toNat]
    exact ⟨by omega, .inr rfl⟩
  | @four b second third fourth hb hsecond hthird hfourth =>
    simp only [UInt8.le_iff_toNat_le, ← UInt8.toNat_inj, UInt8.reduceToNat] at hb
    have htrail := Utf8.isTrail_iff.1 hsecond
    obtain ⟨-, -, hs, hn⟩ := extend_of_isTrail hsecond (b.toNat - 0xF0)
    obtain ⟨hge', hlt', ht, hn'⟩ := extend_of_isTrail hthird (extend (b.toNat - 0xF0) second)
    obtain ⟨hge'', hlt'', hf, hn''⟩ :=
      extend_of_isTrail hfourth (extend (extend (b.toNat - 0xF0) second) third)
    -- the second byte after `F0` keeps the number from having three bytes, and the one after
    -- `F4` keeps it from being too large
    have hrange : 0x10 ≤ extend (b.toNat - 0xF0) second ∧
        extend (b.toNat - 0xF0) second < 0x110 := by
      unfold extend
      omega
    rw [Utf8.encodePoint_four (by omega) (by omega), hf, hn'', ht, hn', hs, hn,
      Nat.add_sub_cancel' (by omega), UInt8.ofNat_toNat]
    exact ⟨by omega, .inr rfl⟩

/-- The bytes of a code point in UTF-8 are a sequence of it. -/
theorem isSequence_encodePoint (c : CodePoint) : IsSequence (Utf8.encodePoint c) c.val := by
  have hlt := c.isLt
  generalize hn : c.val = n at hlt
  have hfirst {n : Nat} (h : n < 0x100) : (UInt8.ofNat n).toNat = n := by
    rw [UInt8.toNat_ofNat']
    exact Nat.mod_eq_of_lt h
  simp only [Utf8.encodePoint, hn]
  by_cases h1 : n < 0x80
  · rw [if_pos h1]
    have hone := IsSequence.one (b := UInt8.ofNat n) (by
      rw [UInt8.le_iff_toNat_le, hfirst (by omega)]
      exact Nat.le_of_lt_succ h1)
    rwa [hfirst (by omega)] at hone
  rw [if_neg h1]
  by_cases h2 : n < 0x800
  · rw [if_pos h2]
    have htwo := IsSequence.two (b := UInt8.ofNat (0xC0 + n / 0x40)) (by
      simp only [UInt8.le_iff_toNat_le, hfirst (show 0xC0 + n / 0x40 < 0x100 by omega),
        UInt8.reduceToNat]
      omega) (Utf8.isTrail_ofNat n)
    have hnumber : extend ((UInt8.ofNat (0xC0 + n / 0x40)).toNat - 0xC0)
        (UInt8.ofNat (0x80 + n % 0x40)) = n := by
      unfold extend
      rw [hfirst (show 0xC0 + n / 0x40 < 0x100 by omega), Utf8.toNat_trail]
      omega
    rwa [hnumber] at htwo
  rw [if_neg h2]
  by_cases h3 : n < 0x10000
  · rw [if_pos h3]
    have hthree := IsSequence.three (b := UInt8.ofNat (0xE0 + n / 0x1000)) (by
      simp only [UInt8.le_iff_toNat_le, ← UInt8.toNat_inj, Utf8.toNat_trail,
        hfirst (show 0xE0 + n / 0x1000 < 0x100 by omega), UInt8.reduceToNat]
      omega) (Utf8.isTrail_ofNat (n / 0x40)) (Utf8.isTrail_ofNat n)
    have hnumber : extend (extend ((UInt8.ofNat (0xE0 + n / 0x1000)).toNat - 0xE0)
        (UInt8.ofNat (0x80 + n / 0x40 % 0x40))) (UInt8.ofNat (0x80 + n % 0x40)) = n := by
      unfold extend
      rw [hfirst (show 0xE0 + n / 0x1000 < 0x100 by omega), Utf8.toNat_trail, Utf8.toNat_trail]
      omega
    rwa [hnumber] at hthree
  · rw [if_neg h3]
    have hfour := IsSequence.four (b := UInt8.ofNat (0xF0 + n / 0x40000)) (by
      simp only [UInt8.le_iff_toNat_le, ← UInt8.toNat_inj, Utf8.toNat_trail,
        hfirst (show 0xF0 + n / 0x40000 < 0x100 by omega), UInt8.reduceToNat]
      omega) (Utf8.isTrail_ofNat (n / 0x1000)) (Utf8.isTrail_ofNat (n / 0x40))
      (Utf8.isTrail_ofNat n)
    have hnumber : extend (extend (extend ((UInt8.ofNat (0xF0 + n / 0x40000)).toNat - 0xF0)
        (UInt8.ofNat (0x80 + n / 0x1000 % 0x40))) (UInt8.ofNat (0x80 + n / 0x40 % 0x40)))
        (UInt8.ofNat (0x80 + n % 0x40)) = n := by
      unfold extend
      rw [hfirst (show 0xF0 + n / 0x40000 < 0x100 by omega), Utf8.toNat_trail, Utf8.toNat_trail,
        Utf8.toNat_trail]
      omega
    rwa [hnumber] at hfour

namespace Sequence

variable {s s' : Sequence}

/-- The sequence of a code point in UTF-8. -/
def ofPoint (c : CodePoint) : Sequence := ⟨Utf8.encodePoint c, c.val, isSequence_encodePoint c⟩

/-- The two bytes that are written for a `NUL`. -/
def nul : Sequence := ⟨[0xC0, 0x80], 0, .nul⟩

/-- The sequence of a code point is its UTF-8. -/
theorem bytes_ofPoint (c : CodePoint) : (ofPoint c).bytes = Utf8.encodePoint c := rfl

/-- And it stands for that code point. -/
theorem point_ofPoint (c : CodePoint) : (ofPoint c).point = c := CodePoint.ofNat_val c

/-- The bytes and the number of a sequence make it. -/
theorem ext_iff : s = s' ↔ s.bytes = s'.bytes ∧ s.number = s'.number := by
  obtain ⟨bytes, number, h⟩ := s
  obtain ⟨bytes', number', h'⟩ := s'
  simp

/-- There is no sequence but these. -/
theorem eq_nul_or_ofPoint (s : Sequence) : s = nul ∨ s = ofPoint s.point := by
  obtain ⟨hlt, ⟨hbytes, hnumber⟩ | hbytes⟩ := s.isSequence.bytes_eq
  · exact .inl (ext_iff.2 ⟨hbytes, hnumber⟩)
  · exact .inr (ext_iff.2 ⟨hbytes, (CodePoint.val_ofNat hlt).symm⟩)

/-- No sequence is the start of another one. -/
theorem append_inj (h : s.bytes ++ rest = s'.bytes ++ raw) : s = s' ∧ rest = raw := by
  -- a code point in UTF-8 does not start with `C0`, and a step reads it and nothing else
  have hnul (c : CodePoint) {rest raw : Bytes} : nul.bytes ++ rest ≠ (ofPoint c).bytes ++ raw := by
    obtain ⟨b, bytes, hbytes, -⟩ := Utf8.stepWith_encodePoint c raw
    have hb := ne_C0_of_mem_encodePoint c b (by rw [hbytes]; exact List.mem_cons_self)
    intro h
    rw [bytes_ofPoint, hbytes] at h
    exact hb (List.cons.inj h).1.symm
  rcases s.eq_nul_or_ofPoint with hs | hs <;> rcases s'.eq_nul_or_ofPoint with hs' | hs' <;>
    rw [hs, hs'] at h
  · exact ⟨hs.trans hs'.symm, List.append_cancel_left h⟩
  · exact absurd h (hnul _)
  · exact absurd h.symm (hnul _)
  · obtain ⟨b, bytes, hbytes, hstep⟩ := Utf8.stepWith_encodePoint s.point rest
    obtain ⟨b', bytes', hbytes', hstep'⟩ := Utf8.stepWith_encodePoint s'.point raw
    rw [bytes_ofPoint, bytes_ofPoint, hbytes, hbytes'] at h
    obtain ⟨rfl, htail⟩ : b = b' ∧ bytes ++ rest = bytes' ++ raw := List.cons.inj h
    rw [htail, hstep'] at hstep
    obtain ⟨hpoint, hrest⟩ := Utf8.Step.point.inj hstep
    exact ⟨by rw [hs, hs', hpoint], hrest.symm⟩

end Sequence

/-! ## Chains -/

@[simp] theorem chain_nil : chain [] = [] := rfl

@[simp] theorem chain_cons (s : Sequence) (parse : List Sequence) :
    chain (s :: parse) = s.bytes ++ chain parse := List.flatMap_cons

/-- A chain comes apart in one way. -/
theorem chain_injective {parse parse' : List Sequence} (h : chain parse = chain parse') :
    parse = parse' := by
  have hne (s : Sequence) (parse : List Sequence) : chain (s :: parse) ≠ [] := by
    rw [chain_cons]
    exact List.append_ne_nil_of_left_ne_nil s.isSequence.ne_nil _
  induction parse generalizing parse' with
  | nil =>
    cases parse' with
    | nil => rfl
    | cons s' parse' => exact absurd h.symm (hne s' parse')
  | cons s parse ih =>
    cases parse' with
    | nil => exact absurd h (hne s parse)
    | cons s' parse' =>
      rw [chain_cons, chain_cons] at h
      obtain ⟨rfl, hrest⟩ := Sequence.append_inj h
      rw [ih hrest]

/-! ## Folding -/

/-- Folding changes `C0 80`, and no other sequence. -/
theorem foldNul_sequence (s : Sequence) (rest : Bytes) :
    foldNul (s.bytes ++ rest) = s.folded ++ foldNul rest := by
  rw [Sequence.folded]
  split
  · next hnul =>
    rw [hnul]
    rfl
  · next hne =>
    refine foldNul_append (fun b hb => ?_) rest
    rcases s.eq_nul_or_ofPoint with hs | hs
    · exact absurd (congrArg Sequence.bytes hs) hne
    · rw [hs] at hb
      exact ne_C0_of_mem_encodePoint _ b hb

/-- After the folding a sequence is the bytes of its code point in UTF-8. -/
theorem Sequence.folded_eq (s : Sequence) : s.folded = Utf8.encodePoint s.point := by
  rcases s.eq_nul_or_ofPoint with hs | hs
  · rw [hs]
    rfl
  · rw [Sequence.folded, if_neg]
    · exact congrArg Sequence.bytes hs
    · intro hnul
      have hC0 := ne_C0_of_mem_encodePoint s.point 0xC0
      rw [← Sequence.bytes_ofPoint, ← hs, hnul] at hC0
      exact hC0 List.mem_cons_self rfl

/-- Folding goes through a chain sequence by sequence, since the first byte of a stored `NUL` is
in no other sequence. -/
theorem foldNul_chain (parse : List Sequence) :
    foldNul (chain parse) = parse.flatMap Sequence.folded := by
  induction parse with
  | nil => rfl
  | cons s parse ih => rw [chain_cons, foldNul_sequence, ih, List.flatMap_cons]

/-- So a chain, folded, is the UTF-8 of what it stands for. -/
theorem foldNul_chain_eq_encode (parse : List Sequence) :
    foldNul (chain parse) = Utf8.encode (parse.map Sequence.point) := by
  rw [foldNul_chain, Utf8.encode, List.flatMap_map]
  exact List.flatMap_congr fun s _ => s.folded_eq

/-- Bytes other than `00` are folded from themselves. -/
theorem exists_of_foldNul_append (h0 : ∀ b ∈ bytes, b ≠ 0) (h : foldNul raw = bytes ++ rest) :
    ∃ raw', raw = bytes ++ raw' ∧ foldNul raw' = rest := by
  induction bytes generalizing raw with
  | nil => exact ⟨raw, rfl, h⟩
  | cons b bytes ih =>
    rw [List.forall_mem_cons] at h0
    cases raw with
    | nil => cases h
    | cons b' raw =>
      rw [foldNul_cons] at h
      unfold glueNul at h
      split at h
      · exact absurd (List.cons.inj h).1.symm h0.1
      · obtain ⟨rfl, htail⟩ := List.cons.inj h
        obtain ⟨raw', rfl, hrest⟩ := ih h0.2 htail
        exact ⟨raw', rfl, hrest⟩

/-- A byte `00` is folded from itself, or from `C0 80`. -/
theorem exists_of_foldNul_cons_zero (h : foldNul raw = 0x00 :: rest) :
    ∃ raw', (raw = 0x00 :: raw' ∨ raw = 0xC0 :: 0x80 :: raw') ∧ foldNul raw' = rest := by
  cases raw with
  | nil => cases h
  | cons b raw =>
    rw [foldNul_cons] at h
    unfold glueNul at h
    split at h
    · next rest' hraw =>
      obtain ⟨-, rfl⟩ := List.cons.inj h
      have h80 : ∀ b ∈ [(0x80 : UInt8)], b ≠ 0 := List.forall_mem_singleton.2 (by decide)
      obtain ⟨raw', rfl, hrest⟩ := exists_of_foldNul_append h80 hraw
      exact ⟨raw', .inr rfl, hrest⟩
    · obtain ⟨rfl, hrest⟩ := List.cons.inj h
      exact ⟨raw, .inl rfl, hrest⟩

/-- UTF-8 has a byte `00` for a `NUL` alone. -/
theorem ne_zero_of_mem_encodePoint (h0 : c ≠ 0) : ∀ b ∈ Utf8.encodePoint c, b ≠ 0 := by
  have hpos : c.val ≠ 0 := fun h => h0 (Fin.ext h)
  have := c.isLt
  simp only [Utf8.encodePoint, ← UInt8.toNat_inj, UInt8.reduceToNat, Ne]
  split_ifs <;>
    simp only [List.mem_cons, List.not_mem_nil, or_false, forall_eq_or_imp, forall_eq,
      UInt8.toNat_ofNat'] <;>
    omega

/-- What is folded to the bytes of a code point in UTF-8 is a sequence of it. -/
theorem exists_sequence_of_foldNul (h : foldNul raw = Utf8.encodePoint c ++ rest) :
    ∃ s : Sequence, ∃ raw', s.point = c ∧ raw = s.bytes ++ raw' ∧ foldNul raw' = rest := by
  by_cases hc : c = 0
  · subst hc
    obtain ⟨raw', rfl | rfl, hrest⟩ := exists_of_foldNul_cons_zero h
    · exact ⟨.ofPoint 0, raw', rfl, rfl, hrest⟩
    · exact ⟨.nul, raw', rfl, rfl, hrest⟩
  · obtain ⟨raw', rfl, hrest⟩ := exists_of_foldNul_append (ne_zero_of_mem_encodePoint hc) h
    exact ⟨.ofPoint c, raw', Sequence.point_ofPoint c, rfl, hrest⟩

/-- What is folded to the UTF-8 of a text is a chain of its code points. -/
theorem exists_chain_of_foldNul {t : Text} (h : foldNul raw = Utf8.encode t) :
    ∃ parse : List Sequence, chain parse = raw ∧ parse.map Sequence.point = t := by
  induction t generalizing raw with
  | nil =>
    cases raw with
    | nil => exact ⟨[], rfl, rfl⟩
    | cons b raw =>
      rw [foldNul_cons] at h
      unfold glueNul at h
      split at h <;> cases h
  | cons c t ih =>
    rw [Utf8.encode_cons] at h
    obtain ⟨s, raw', hpoint, rfl, hrest⟩ := exists_sequence_of_foldNul h
    obtain ⟨parse, rfl, rfl⟩ := ih hrest
    exact ⟨s :: parse, chain_cons s parse, by rw [List.map_cons, hpoint]⟩

/-! ## The grammar -/

/-- What is folded to UTF-8 is a chain of its code points, and nothing else is. -/
theorem decodePassing_foldNul_iff {t : Text} :
    Utf8.decodePassing (foldNul raw) = .ok t ↔
      ∃ parse : List Sequence, chain parse = raw ∧ parse.map Sequence.point = t := by
  constructor
  · intro h
    exact exists_chain_of_foldNul (Utf8.encode_of_decodePassing h).symm
  · rintro ⟨parse, rfl, rfl⟩
    rw [foldNul_chain_eq_encode, Utf8.decodePassing_encode]

/-- **The grammar of stored strings.** Bytes are read exactly if they are a chain of
sequences:

* the text that is read is the code points of the sequences, each high surrogate joined with
  a low one right after it;
* bytes are a chain in one way only;
* bytes that are UTF-8, but for surrogates, once `C0 80` is folded are a chain from the start;
* the folding puts `00` for each sequence `C0 80`, and leaves every other sequence. -/
theorem decode_iff_chain (raw : Bytes) :
    (∀ t, decode raw = .ok t ↔ ∃ parse : List Sequence,
      chain parse = raw ∧ t = Text.pairUp (parse.map Sequence.point)) ∧
    (∀ parse parse' : List Sequence, chain parse = chain parse' ↔ parse = parse') ∧
    ((∃ t, Utf8.decodePassing (foldNul raw) = .ok t) ↔ ∃ parse, chain parse = raw) ∧
    ∀ parse, foldNul (chain parse) = parse.flatMap Sequence.folded := by
  refine ⟨fun t => ?_, fun parse parse' => ⟨chain_injective, congrArg chain⟩, ?_, foldNul_chain⟩
  · have hdecode : decode raw = .ok t ↔
        ∃ u, Utf8.decodePassing (foldNul raw) = .ok u ∧ t = Text.pairUp u := by
      rw [decode]
      cases Utf8.decodePassing (foldNul raw) with
      | ok u => simp [Except.map, Text.joinPairs_eq_pairUp, eq_comm]
      | error fault => simp [Except.map]
    rw [hdecode]
    constructor
    · rintro ⟨u, hu, rfl⟩
      obtain ⟨parse, hchain, rfl⟩ := decodePassing_foldNul_iff.1 hu
      exact ⟨parse, hchain, rfl⟩
    · rintro ⟨parse, hchain, rfl⟩
      exact ⟨_, decodePassing_foldNul_iff.2 ⟨parse, hchain, rfl⟩, rfl⟩
  · constructor
    · rintro ⟨t, ht⟩
      obtain ⟨parse, hchain, -⟩ := decodePassing_foldNul_iff.1 ht
      exact ⟨parse, hchain⟩
    · rintro ⟨parse, hchain⟩
      exact ⟨_, decodePassing_foldNul_iff.2 ⟨parse, hchain, rfl⟩⟩

end StoredString
end Hotspot
