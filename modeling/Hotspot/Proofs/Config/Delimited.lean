/-
# Where a file ends

A file says itself where it ends: after the key, or after the code of an open
network. What is cut off or put behind that place makes no difference to how the
file is read, and a file that is cut off before it is not read at all:

| bytes left | outcome |
| --- | --- |
| fewer than 4 | no version |
| 4 or more, and not all fields | not readable |
| all fields, and any others | the same configuration |

A shorter file that could be read would have its own parts, and they would be
parts of the longer one too, which has them in one way only
(`Parts.bytes_injective`).
-/

import Hotspot.Proofs.Config.Canonical

namespace Hotspot
namespace Config

variable {bytes : Bytes} {c : Config} {n m : Nat}

/-- A file ends at a length. Its first bytes, so many or more, are read as the file is,
whatever follows them. Fewer are not read, for want of a version if they are fewer than
four, and otherwise for want of what follows it. -/
structure EndsAt (bytes : Bytes) (n : Nat) : Prop where
  four_lt : 4 < n
  le_length : n ≤ bytes.length
  decode_take_append : ∀ k, n ≤ k → ∀ rest, decode (bytes.take k ++ rest) = decode bytes
  decode_take : ∀ k, k < n → ∃ e, decode (bytes.take k) = .error e ∧
    (e.kind = .badVersion ↔ k < 4) ∧ (e.kind = .ioFailure ↔ 4 ≤ k)

namespace Parts

variable {f g : Parts}

/-- The bytes of a file up to the end of its last field. -/
def fields (f : Parts) : Bytes :=
  int32 f.version ++ (stringField f.name ++ (radioBytes f.radio ++
    (int32 f.scheme.code ++ keyBytes f.key)))

/-- The file with other bytes behind its last field. -/
def withRest (f : Parts) (rest : Bytes) : Parts := { f with rest }

/-- The bytes of a file are those of its fields, and the rest. -/
theorem bytes_eq_fields_append (f : Parts) : f.bytes = f.fields ++ f.rest := by
  simp [bytes, fields]

@[simp] theorem fields_withRest (f : Parts) (rest : Bytes) :
    (f.withRest rest).fields = f.fields := rfl

/-- Only the rest of the bytes is another one. -/
theorem bytes_withRest (f : Parts) (rest : Bytes) : (f.withRest rest).bytes = f.fields ++ rest :=
  (f.withRest rest).bytes_eq_fields_append

/-- The rest has no part in what is read. -/
theorem reads_withRest {rest : Bytes} : (f.withRest rest).Reads c ↔ f.Reads c :=
  ⟨fun h => ⟨h.ssid, h.radio, h.keyManagement, h.key, h.networkId⟩,
    fun h => ⟨h.ssid, h.radio, h.keyManagement, h.key, h.networkId⟩⟩

/-- Version, length of the name and code take ten bytes. -/
theorem four_lt_length_fields (f : Parts) : 4 < f.fields.length := by
  rw [fields, List.length_append, List.length_append, length_int32, length_stringField]
  omega

/-- What follows the last field has no part in what is read. -/
theorem decode_fields_append (h : f.Reads c) (rest : Bytes) :
    decode (f.fields ++ rest) = .ok c := by
  rw [← f.bytes_withRest, decode_bytes, reads_withRest]
  exact h

/-- No bytes before the end of the last field are a file. -/
theorem length_fields_le (h : decode (f.bytes.take m) = .ok c) : f.fields.length ≤ m := by
  obtain ⟨g, hg, -⟩ := layout_iff.1 (decode_eq_ok.1 h)
  have hparts : g.withRest (g.rest ++ f.bytes.drop m) = f := by
    refine bytes_injective ?_
    rw [bytes_withRest, ← List.append_assoc, ← bytes_eq_fields_append, hg, List.take_append_drop]
  have hfields : g.fields = f.fields := by rw [← hparts, fields_withRest]
  calc f.fields.length = g.fields.length := by rw [hfields]
    _ ≤ g.bytes.length := by rw [bytes_eq_fields_append, List.length_append]; omega
    _ ≤ m := by rw [hg]; exact List.length_take_le ..

end Parts

/-- A file that is cut off behind its version still has it. -/
theorem hasVersion_take_iff (h : HasVersion bytes) : HasVersion (bytes.take m) ↔ 4 ≤ m := by
  rw [HasVersion, List.length_take]
  constructor
  · rintro ⟨hlen, -⟩
    omega
  · intro hm
    rw [List.take_take, Nat.min_eq_left hm]
    exact ⟨by have := h.1; omega, h.2⟩

/-- A beginning that is not read has no version if it is shorter than that, and fails in reading
otherwise. -/
theorem kind_decode_take (h : HasVersion bytes) {e : DecodeError}
    (he : decode (bytes.take m) = .error e) :
    (e.kind = .badVersion ↔ m < 4) ∧ (e.kind = .ioFailure ↔ 4 ≤ m) := by
  have hversion := kind_of_decode_eq_error he
  rw [hasVersion_take_iff h, Nat.not_le] at hversion
  refine ⟨hversion, ?_⟩
  rw [← Nat.not_lt, ← hversion]
  cases e.kind <;> simp

/-- A file ends where its last field does. -/
theorem Parts.endsAt {f : Parts} (h : f.Reads c) : EndsAt f.bytes f.fields.length where
  four_lt := f.four_lt_length_fields
  le_length := by
    rw [f.bytes_eq_fields_append, List.length_append]
    omega
  decode_take_append := by
    intro k hk rest
    rw [decode_bytes.2 h, f.bytes_eq_fields_append, List.take_append, List.take_of_length_le hk,
      List.append_assoc]
    exact decode_fields_append h _
  decode_take := by
    intro k hk
    have hversion : HasVersion f.bytes := (decode_eq_ok.1 (decode_bytes.2 h)).hasVersion
    cases hread : decode (f.bytes.take k) with
    | ok c' => exact absurd (length_fields_le hread) (by omega)
    | error e => exact ⟨e, rfl, kind_decode_take hversion hread⟩

/-- No end is before another one: between them the file would be read and not read. -/
theorem EndsAt.le (h : EndsAt bytes n) (h' : EndsAt bytes m) (hc : decode bytes = .ok c) :
    n ≤ m := by
  by_contra hlt
  obtain ⟨e, he, -⟩ := h.decode_take m (by omega)
  have hread := h'.decode_take_append m (Nat.le_refl m) []
  rw [List.append_nil, he, hc] at hread
  cases hread

/-- **A file tells where it ends.** Every file that is read ends at one length and no other.
A file that was written ends with its last byte, so that it is not read if any byte at its
end is missing. -/
theorem endsAt_length (bytes : Bytes) :
    (∀ c, decode bytes = .ok c → ∃! n, EndsAt bytes n) ∧
      ∀ c, encode c = .ok bytes → EndsAt bytes bytes.length := by
  constructor
  · intro c hc
    obtain ⟨f, rfl, hreads⟩ := Parts.layout_iff.1 (decode_eq_ok.1 hc)
    have hends := Parts.endsAt hreads
    exact ⟨_, hends, fun m hm => Nat.le_antisymm (hm.le hends hc) (hends.le hm hc)⟩
  · intro c hc
    obtain ⟨f, rfl, hwrites⟩ := Parts.encode_iff.1 hc
    have hends := Parts.endsAt (Parts.decode_bytes.1 (decode_of_encode hc))
    have hlength : f.bytes.length = f.fields.length := by
      rw [f.bytes_eq_fields_append, hwrites.rest, List.append_nil]
    rwa [hlength]

/-- A file of version 1 with two bytes behind it ends somewhere. One that was written, with
a key of one letter, is not read without that letter, though what is left has a key length. -/
theorem endsAt_length_of_letters :
    (∃! n, EndsAt [0, 0, 0, 1, 0, 1, 0x61, 0, 0, 0, 0, 0, 1] n) ∧
      ∃ bytes, encode {
          ssid := some [0x61], keyManagement := some (KeySet.singleton 4)
          key := some [0x62] } = .ok bytes ∧
        ∃ e, decode bytes.dropLast = .error e ∧ e.kind = .ioFailure := by
  constructor
  · exact (endsAt_length _).1 { ssid := some [0x61] } (by decide +kernel)
  · have hbytes : encode {
        ssid := some [0x61], keyManagement := some (KeySet.singleton 4)
        key := some [0x62] } = .ok [0, 0, 0, 2, 0, 1, 0x61, 0, 0, 0, 0, 0, 0, 0, 0,
          0, 0, 0, 4, 0, 1, 0x62] := by rfl
    obtain ⟨e, he, -, hkind⟩ := ((endsAt_length _).2 _ hbytes).decode_take 21 (by decide)
    exact ⟨_, hbytes, e, he, hkind.2 (by decide)⟩

end Config
end Hotspot
