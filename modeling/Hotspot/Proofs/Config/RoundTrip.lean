/-
# Reading back a written configuration

What is written holds a configuration up to its canonical form: absent texts are
empty ones, surrogate pairs are joined, an open network has no key, and there is
no network identifier. The bytes written are a file in the sense of `Layout`
(`layout_of_encode`), so they are read as the canonical form whatever follows
them (`decode_encode`).
-/

import Hotspot.Proofs.Config.Layout
import Hotspot.Proofs.Text.StoredReading

namespace Hotspot
namespace Config

/-- What a file keeps of a configuration. -/
def canon (c : Config) : Config where
  ssid := some (c.ssid.getD []).pairUp
  band := c.band
  channel := c.channel
  keyManagement := c.keyManagement
  key := match c.auth with
    | .ok .none => none
    | _ => some (c.key.getD []).pairUp
  networkId := noNetworkId

/-! ## What is written -/

/-- A configuration has a scheme just if its set has the code of that scheme alone. -/
theorem auth_eq_ok {c : Config} {k : KeyManagement} :
    c.auth = .ok k ↔ c.keyManagement = some (KeySet.singleton k.code) := by
  rw [auth, deriveAuth.eq_def]
  constructor
  · intro h
    match hk : c.keyManagement with
    | none => rw [hk] at h; cases h
    | some ⟨[], _⟩ => rw [hk] at h; cases h
    | some ⟨[i], _⟩ =>
      rw [hk] at h
      dsimp only at h
      split at h
      · next k' hk' =>
        obtain rfl := Except.ok.inj h
        rw [KeyManagement.ofCode?_eq_some] at hk'
        subst hk'
        rfl
      · cases h
    | some ⟨_ :: _ :: _, _⟩ => rw [hk] at h; cases h
  · intro h
    rw [h]
    dsimp only [KeySet.singleton]
    rw [KeyManagement.ofCode?_code]

/-- An integer is written just as it is laid out. -/
theorem writeInt_eq_ok {field : Field} {i : Int} {bytes : Bytes} :
    writeInt field i = .ok bytes ↔ IntField i bytes := by
  rw [writeInt, IntField]
  by_cases h : FitsInt32 i
  · rw [if_pos h, Except.ok.injEq, eq_comm]
    exact (and_iff_right h).symm
  · rw [if_neg h]
    constructor
    · intro hw
      split at hw <;> cases hw
    · exact fun hw => absurd hw.1 h

/-- A text is written just if its payload is not too long, and as that payload. -/
theorem writeString_eq_ok {field : Field} {t : Option Text} {bytes : Bytes} :
    writeString field t = .ok bytes ↔ (StoredString.encode (t.getD [])).length ≤ 0xFFFF ∧
      bytes = stringField (StoredString.encode (t.getD [])) := by
  rw [writeString]
  by_cases h : (StoredString.encode (t.getD [])).length ≤ 0xFFFF
  · rw [if_pos h, Except.ok.injEq, eq_comm]
    exact (and_iff_right h).symm
  · rw [if_neg h]
    exact ⟨fun hw => (by cases hw), fun hw => absurd hw.1 h⟩

/-- The key takes bytes unless the network is open. -/
theorem writeKey_eq_ok {k : KeyManagement} {key : Option Text} {bytes : Bytes} :
    writeKey k key = .ok bytes ↔ (k = .none ∧ bytes = []) ∨
      (k ≠ .none ∧ (StoredString.encode (key.getD [])).length ≤ 0xFFFF ∧
        bytes = stringField (StoredString.encode (key.getD []))) := by
  cases k with
  | none => simp [writeKey, eq_comm]
  | _ => simp [writeKey, writeString_eq_ok]

/-- **What is written, and when.** The set comes to one scheme, the texts fit their
lengths, and the numbers fit 32 bits. -/
theorem encode_eq_ok {c : Config} {bytes : Bytes} :
    c.encode = .ok bytes ↔ ∃ k name band channel key, c.auth = .ok k ∧
      writeString .ssid c.ssid = .ok name ∧ writeInt .band c.band = .ok band ∧
      writeInt .channel c.channel = .ok channel ∧ writeKey k c.key = .ok key ∧
      bytes = int32 currentVersion ++ name ++ band ++ channel ++ int32 k.code ++ key := by
  simp only [encode, bind_eq_ok, mapError_eq_ok, pure, Except.pure, Except.ok.injEq]
  constructor
  · rintro ⟨k, hk, name, hname, band, hband, channel, hchannel, key, hkey, rfl⟩
    exact ⟨k, name, band, channel, key, hk, hname, hband, hchannel, hkey, rfl⟩
  · rintro ⟨k, name, band, channel, key, hk, hname, hband, hchannel, hkey, rfl⟩
    exact ⟨k, hk, name, hname, band, hband, channel, hchannel, key, hkey, rfl⟩

/-! ## What is read of it -/

/-- A written text is a text on file, with its pairs joined. -/
theorem stringField_of_writeString {field : Field} {t : Option Text} {bytes : Bytes}
    (h : writeString field t = .ok bytes) : StringField (t.getD []).pairUp bytes := by
  obtain ⟨hmax, rfl⟩ := writeString_eq_ok.1 h
  exact ⟨_, hmax, StoredString.decode_encode _, rfl⟩

/-- A key that is written is laid out in its canonical form. -/
theorem keyField_of_writeKey {c : Config} {k : KeyManagement} {bytes : Bytes}
    (hk : c.auth = .ok k) (h : writeKey k c.key = .ok bytes) :
    KeyField k.code c.canon.key bytes := by
  rcases writeKey_eq_ok.1 h with ⟨rfl, rfl⟩ | ⟨hne, hmax, rfl⟩
  · have hkey : c.canon.key = none := by rw [canon, hk]
    rw [hkey]
    exact .absent
  · have hkey : c.canon.key = some (c.key.getD []).pairUp := by
      rw [canon, hk]
      cases k <;> first | rfl | exact absurd rfl hne
    rw [hkey]
    exact .present (mt KeyManagement.code_eq_zero.1 hne)
      ⟨_, hmax, StoredString.decode_encode _, rfl⟩

/-- The bytes of a configuration are a file of its canonical form, whatever follows
them. -/
theorem layout_of_encode {c : Config} {bytes : Bytes} (h : c.encode = .ok bytes) (rest : Bytes) :
    Layout (bytes ++ rest) c.canon := by
  obtain ⟨k, name, band, channel, key, hk, hname, hband, hchannel, hkey, rfl⟩ := encode_eq_ok.1 h
  obtain ⟨hbandFits, rfl⟩ := writeInt_eq_ok.1 hband
  obtain ⟨hchannelFits, rfl⟩ := writeInt_eq_ok.1 hchannel
  obtain ⟨h0, h4⟩ := KeyManagement.exists_code.1 ⟨k, rfl⟩
  have hlayout := @Layout.intro _ _ _ _ _ _ _ _ _ rest (stringField_of_writeString hname)
    (.second hbandFits hchannelFits) h0 h4 (keyField_of_writeKey hk hkey)
  rw [← auth_eq_ok.1 hk] at hlayout
  simp only [List.append_assoc]
  exact hlayout

/-- A written configuration is read back in its canonical form. -/
theorem decode_encode {c : Config} {bytes : Bytes} (h : c.encode = .ok bytes) (rest : Bytes) :
    decode (bytes ++ rest) = .ok c.canon :=
  decode_eq_ok.2 (layout_of_encode h rest)

/-- What is written is read back in canonical form. The bytes are laid out as the canonical
form is, and a file is read as it is laid out. -/
theorem decode_of_encode {c : Config} {bytes : Bytes} (h : c.encode = .ok bytes) :
    decode bytes = .ok c.canon := by
  rw [← decode_encode h [], List.append_nil]

/-- **Writing and reading back gives the canonical form.** Whatever follows the bytes
of a configuration, they are read as its canonical form, and so as the configuration
itself exactly when it is in that form. -/
theorem roundTrip {c : Config} {bytes : Bytes} (h : c.encode = .ok bytes) :
    (∀ rest, decode (bytes ++ rest) = .ok c.canon) ∧ (decode bytes = .ok c ↔ c = c.canon) := by
  refine ⟨decode_encode h, ?_⟩
  rw [decode_of_encode h, Except.ok.injEq, eq_comm]

/-- A `NUL` and a high surrogate before a pair of two code points in the name; in the
key a low surrogate before a high one, and a supplementary code point. -/
theorem roundTrip_of_surrogates :
    ∃ bytes, encode {
        ssid := some [0, 0xD83D, 0xD83D, 0xDE00], band := 1, channel := -1,
        keyManagement := some (KeySet.singleton 4), key := some [0xDE00, 0xD83D, 0x1F600],
        networkId := 7 } = .ok bytes ∧
      decode (bytes ++ [0, 0xFF]) = .ok {
        ssid := some [0, 0xD83D, 0x1F600], band := 1, channel := -1,
        keyManagement := some (KeySet.singleton 4), key := some [0xDE00, 0xD83D, 0x1F600] } := by
  have h : encode {
      ssid := some [0, 0xD83D, 0xD83D, 0xDE00], band := 1, channel := -1,
      keyManagement := some (KeySet.singleton 4), key := some [0xDE00, 0xD83D, 0x1F600],
      networkId := 7 } = .ok [0, 0, 0, 2, 0, 11, 0xC0, 0x80, 0xED, 0xA0, 0xBD, 0xED, 0xA0, 0xBD,
        0xED, 0xB8, 0x80, 0, 0, 0, 1, 0xFF, 0xFF, 0xFF, 0xFF, 0, 0, 0, 4, 0, 12, 0xED, 0xB8, 0x80,
        0xED, 0xA0, 0xBD, 0xED, 0xA0, 0xBD, 0xED, 0xB8, 0x80] := by rfl
  refine ⟨_, h, ((roundTrip h).1 [0, 0xFF]).trans ?_⟩
  decide +kernel

end Config
end Hotspot
