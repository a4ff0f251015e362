/-
# Canonical files

Reading a file and writing the configuration again need not give the same file.
Version 1 becomes version 2, bytes behind the last field are dropped, and a string
may come back in other bytes. A file is canonical if none of this happens:

| part | of a canonical file |
| --- | --- |
| version | 2 |
| payloads | no byte `00`, no byte `F0 … F4` |
| bytes behind the last field | none |

The parts of a file are the bytes of its fields, before any string is read. A file
has them in one way only (`Parts.bytes_injective`), so writing gives a file back
exactly if its parts are those that are written (`recode`).
-/

import Hotspot.Proofs.Config.RoundTrip
import Hotspot.Proofs.Text.StoredWriting
import Mathlib.Logic.ExistsUnique

namespace Hotspot
namespace Config

open StoredString (IsPlain)

/-! ## The parts of a file -/

/-- The parts of a file: numbers and payloads as they stand in it, and the bytes
behind the last field. -/
@[ext]
structure Parts where
  /-- The payload of the network name. -/
  name : Bytes
  /-- Band and channel, which version 1 does not have. -/
  radio : Option (Int × Int)
  scheme : KeyManagement
  /-- The payload of the key, which an open network does not have. -/
  key : Option Bytes
  rest : Bytes
  length_name : name.length ≤ 0xFFFF
  fits_radio : ∀ r ∈ radio, FitsInt32 r.1 ∧ FitsInt32 r.2
  key_eq_none : key = none ↔ scheme = .none
  length_key : ∀ payload ∈ key, payload.length ≤ 0xFFFF

namespace Parts

/-- The version of a file. -/
def version (f : Parts) : Int := if f.radio.isSome then 2 else 1

/-- The bytes of band and channel. -/
def radioBytes : Option (Int × Int) → Bytes
  | none => []
  | some (band, channel) => int32 band ++ int32 channel

/-- The bytes of the key. -/
def keyBytes : Option Bytes → Bytes
  | none => []
  | some payload => stringField payload

/-- The bytes of a file. -/
def bytes (f : Parts) : Bytes :=
  int32 f.version ++ (stringField f.name ++ (radioBytes f.radio ++
    (int32 f.scheme.code ++ (keyBytes f.key ++ f.rest))))

/-- The payloads of the strings of a file. -/
def payloads (f : Parts) : List Bytes := f.name :: f.key.toList

/-- A file of version 2 that ends with its last field, and whose payloads are plain. -/
structure IsCanonical (f : Parts) : Prop where
  version : f.version = 2
  rest : f.rest = []
  payloads : ∀ payload ∈ f.payloads, IsPlain payload

/-! ## One way to have parts -/

/-- A number on file tells itself and what is behind it, since it has four bytes. -/
theorem int32_append_inj {i j : Int} (hi : FitsInt32 i) (hj : FitsInt32 j) {rest rest' : Bytes}
    (h : int32 i ++ rest = int32 j ++ rest') : i = j ∧ rest = rest' := by
  obtain ⟨hint, hrest⟩ := List.append_inj h (by rw [length_int32, length_int32])
  rw [← signed_int32 hi, ← signed_int32 hj, hint]
  exact ⟨rfl, hrest⟩

/-- So does a payload, since its length is in front of it. -/
theorem stringField_append_inj {payload payload' : Bytes} (h : payload.length ≤ 0xFFFF)
    (h' : payload'.length ≤ 0xFFFF) {rest rest' : Bytes}
    (heq : stringField payload ++ rest = stringField payload' ++ rest') :
    payload = payload' ∧ rest = rest' := by
  rw [stringField, stringField, List.append_assoc, List.append_assoc] at heq
  obtain ⟨hlength, hrest⟩ := List.append_inj heq (by rw [length_bigEndian, length_bigEndian])
  have hread := congrArg unsigned hlength
  rw [unsigned_bigEndian (by omega), unsigned_bigEndian (by omega)] at hread
  exact List.append_inj hrest hread

/-- So do band and channel, if it is known whether they are there. -/
theorem radioBytes_append_inj {r r' : Option (Int × Int)} (hsome : r.isSome = r'.isSome)
    (hr : ∀ x ∈ r, FitsInt32 x.1 ∧ FitsInt32 x.2) (hr' : ∀ x ∈ r', FitsInt32 x.1 ∧ FitsInt32 x.2)
    {rest rest' : Bytes} (h : radioBytes r ++ rest = radioBytes r' ++ rest') :
    r = r' ∧ rest = rest' := by
  cases r with
  | none =>
    obtain rfl : r' = none := by simpa using hsome.symm
    exact ⟨rfl, h⟩
  | some x =>
    obtain ⟨x', rfl⟩ := Option.isSome_iff_exists.1 hsome.symm
    rw [radioBytes, radioBytes, List.append_assoc, List.append_assoc] at h
    obtain ⟨hband, h⟩ := int32_append_inj (hr x rfl).1 (hr' x' rfl).1 h
    obtain ⟨hchannel, h⟩ := int32_append_inj (hr x rfl).2 (hr' x' rfl).2 h
    exact ⟨congrArg some (Prod.ext hband hchannel), h⟩

/-- So does the key, if it is known whether there is one. -/
theorem keyBytes_append_inj {key key' : Option Bytes} (hnone : key = none ↔ key' = none)
    (hkey : ∀ payload ∈ key, payload.length ≤ 0xFFFF)
    (hkey' : ∀ payload ∈ key', payload.length ≤ 0xFFFF) {rest rest' : Bytes}
    (h : keyBytes key ++ rest = keyBytes key' ++ rest') : key = key' ∧ rest = rest' := by
  cases key with
  | none =>
    obtain rfl := hnone.1 rfl
    exact ⟨rfl, h⟩
  | some payload =>
    cases key' with
    | none => exact absurd (hnone.2 rfl) nofun
    | some payload' =>
      obtain ⟨hpayload, hrest⟩ := stringField_append_inj (hkey _ rfl) (hkey' _ rfl) h
      exact ⟨congrArg some hpayload, hrest⟩

/-- The code of a scheme is small. -/
theorem fitsInt32_code (k : KeyManagement) : FitsInt32 k.code := by
  cases k <;> decide

/-- No two schemes have one code. -/
theorem code_injective {k k' : KeyManagement} (h : k.code = k'.code) : k = k' := by
  have hread := congrArg KeyManagement.ofCode? h
  rwa [KeyManagement.ofCode?_code, KeyManagement.ofCode?_code, Option.some.injEq] at hread

variable {f g : Parts} {c : Config}

/-- The number of a version is small. -/
theorem fitsInt32_version (f : Parts) : FitsInt32 f.version := by
  rw [version]
  split <;> decide

/-- The version tells whether band and channel are there. -/
theorem isSome_radio_of_version (h : f.version = g.version) :
    f.radio.isSome = g.radio.isSome := by
  rw [version, version] at h
  cases hf : f.radio.isSome <;> cases hg : g.radio.isSome <;> simp_all

/-- **A file has its parts in one way only.** -/
theorem bytes_injective (h : f.bytes = g.bytes) : f = g := by
  obtain ⟨hversion, h⟩ := int32_append_inj f.fitsInt32_version g.fitsInt32_version h
  obtain ⟨hname, h⟩ := stringField_append_inj f.length_name g.length_name h
  obtain ⟨hradio, h⟩ := radioBytes_append_inj (isSome_radio_of_version hversion) f.fits_radio
    g.fits_radio h
  obtain ⟨hcode, h⟩ := int32_append_inj (fitsInt32_code _) (fitsInt32_code _) h
  -- whether a key follows is read off the scheme, so the schemes have to agree first
  have hscheme := code_injective hcode
  have hnone : f.key = none ↔ g.key = none := by rw [f.key_eq_none, g.key_eq_none, hscheme]
  obtain ⟨hkey, hrest⟩ := keyBytes_append_inj hnone f.length_key g.length_key h
  exact Parts.ext hname hradio hscheme hkey hrest

/-! ## What is read of the parts -/

/-- A key is read from a payload, where there is one. -/
def KeyReads : Option Bytes → Option Text → Prop
  | none, key => key = none
  | some payload, key => ∃ t, StoredString.decode payload = .ok t ∧ key = some t

/-- A configuration is read from a file part by part. -/
structure Reads (f : Parts) (c : Config) : Prop where
  ssid : ∃ t, StoredString.decode f.name = .ok t ∧ c.ssid = some t
  radio : (c.band, c.channel) = f.radio.getD (0, 0)
  keyManagement : c.keyManagement = some (KeySet.singleton f.scheme.code)
  key : KeyReads f.key c.key
  networkId : c.networkId = -1

/-- The field of band and channel as a part: both versions in one formula. -/
theorem radioField_iff {version band channel : Int} {bytes : Bytes} :
    RadioField version band channel bytes ↔ ∃ r : Option (Int × Int),
      (∀ x ∈ r, FitsInt32 x.1 ∧ FitsInt32 x.2) ∧ version = (if r.isSome then 2 else 1) ∧
        (band, channel) = r.getD (0, 0) ∧ bytes = radioBytes r := by
  constructor
  · intro h
    cases h with
    | first => exact ⟨none, nofun, rfl, rfl, rfl⟩
    | second hband hchannel =>
      refine ⟨some (band, channel), fun x hx => ?_, rfl, rfl, rfl⟩
      obtain rfl := Option.some.inj hx
      exact ⟨hband, hchannel⟩
  · rintro ⟨r, hfits, rfl, hr, rfl⟩
    cases r with
    | none =>
      obtain ⟨rfl, rfl⟩ := Prod.mk.inj hr
      exact .first
    | some x =>
      obtain rfl : (band, channel) = x := hr
      exact .second (hfits _ rfl).1 (hfits _ rfl).2

/-- The field of the key as a part: with and without a key in one formula. -/
theorem keyField_iff {k : KeyManagement} {key : Option Text} {bytes : Bytes} :
    KeyField k.code key bytes ↔ ∃ payload : Option Bytes, (payload = none ↔ k = .none) ∧
      (∀ p ∈ payload, p.length ≤ 0xFFFF) ∧ KeyReads payload key ∧ bytes = keyBytes payload := by
  constructor
  · intro h
    generalize hcode : k.code = code at h
    cases h with
    | absent => exact ⟨none, iff_of_true rfl (KeyManagement.code_eq_zero.1 hcode), nofun, rfl, rfl⟩
    | present hne hkey =>
      obtain ⟨payload, hlen, ht, rfl⟩ := hkey
      refine ⟨some payload, iff_of_false nofun fun hk => hne ?_, fun p hp => ?_, ⟨_, ht, rfl⟩, rfl⟩
      · rw [← hcode, hk]
        rfl
      · obtain rfl := Option.some.inj hp
        exact hlen
  · rintro ⟨payload, hnone, hlen, hread, rfl⟩
    cases payload with
    | none =>
      obtain rfl := hnone.1 rfl
      obtain rfl : key = none := hread
      exact .absent
    | some payload =>
      obtain ⟨t, ht, rfl⟩ := hread
      refine .present (fun hcode => ?_) ⟨payload, hlen _ rfl, ht, rfl⟩
      exact absurd (hnone.2 (KeyManagement.code_eq_zero.1 hcode)) nofun

/-- A file is laid out in its parts. -/
theorem layout_iff {bytes : Bytes} :
    Layout bytes c ↔ ∃ f : Parts, f.bytes = bytes ∧ f.Reads c := by
  constructor
  · intro h
    cases h with
    | @intro version band channel code ssid key name radio keyBytes rest hname hradio h0 h4 hkey =>
      obtain ⟨k, rfl⟩ := KeyManagement.exists_code.2 ⟨h0, h4⟩
      obtain ⟨payload, hlen, hssid, rfl⟩ := hname
      obtain ⟨r, hfits, rfl, hr, rfl⟩ := radioField_iff.1 hradio
      obtain ⟨keyPayload, hnone, hkeyLen, hread, rfl⟩ := keyField_iff.1 hkey
      exact ⟨⟨payload, r, k, keyPayload, rest, hlen, hfits, hnone, hkeyLen⟩, rfl,
        ⟨ssid, hssid, rfl⟩, hr, rfl, hread, rfl⟩
  · rintro ⟨f, rfl, hreads⟩
    obtain ⟨t, ht, hssid⟩ := hreads.ssid
    obtain ⟨h0, h4⟩ := KeyManagement.exists_code.1 ⟨f.scheme, rfl⟩
    have hlayout := @Layout.intro f.version c.band c.channel f.scheme.code t c.key _ _ _ f.rest
      ⟨f.name, f.length_name, ht, rfl⟩
      (radioField_iff.2 ⟨f.radio, f.fits_radio, rfl, hreads.radio, rfl⟩) h0 h4
      (keyField_iff.2 ⟨f.key, f.key_eq_none, f.length_key, hreads.key, rfl⟩)
    rwa [← hssid, ← hreads.keyManagement, ← hreads.networkId] at hlayout

/-- A file is read part by part. -/
theorem decode_bytes : decode f.bytes = .ok c ↔ f.Reads c := by
  rw [decode_eq_ok, layout_iff]
  constructor
  · rintro ⟨g, hbytes, hreads⟩
    rwa [← bytes_injective hbytes]
  · exact fun hreads => ⟨f, rfl, hreads⟩

/-! ## What is written as parts -/

/-- The payload of a key that is written, where one is. -/
def keyPayload (k : KeyManagement) (key : Option Text) : Option Bytes :=
  if k = .none then none else some (StoredString.encode (key.getD []))

/-- A file is what is written of a configuration. -/
structure Writes (f : Parts) (c : Config) : Prop where
  auth : c.auth = .ok f.scheme
  name : f.name = StoredString.encode (c.ssid.getD [])
  radio : f.radio = some (c.band, c.channel)
  key : f.key = keyPayload f.scheme c.key
  rest : f.rest = []

/-- A key is written just if its payload is not too long, and as that payload. -/
theorem writeKey_iff {k : KeyManagement} {key : Option Text} {bytes : Bytes} :
    writeKey k key = .ok bytes ↔ (∀ payload ∈ keyPayload k key, payload.length ≤ 0xFFFF) ∧
      bytes = keyBytes (keyPayload k key) := by
  rw [writeKey_eq_ok, keyPayload]
  by_cases hk : k = .none
  · simp [hk, keyBytes]
  · simp [hk, keyBytes]

/-- What is written is made of parts. -/
theorem encode_iff {bytes : Bytes} :
    c.encode = .ok bytes ↔ ∃ f : Parts, f.bytes = bytes ∧ f.Writes c := by
  rw [encode_eq_ok]
  constructor
  · rintro ⟨k, name, band, channel, key, hk, hname, hband, hchannel, hkey, rfl⟩
    obtain ⟨hlen, rfl⟩ := writeString_eq_ok.1 hname
    obtain ⟨hbandFits, rfl⟩ := writeInt_eq_ok.1 hband
    obtain ⟨hchannelFits, rfl⟩ := writeInt_eq_ok.1 hchannel
    obtain ⟨hkeyLen, rfl⟩ := writeKey_iff.1 hkey
    refine ⟨⟨StoredString.encode (c.ssid.getD []), some (c.band, c.channel), k,
      keyPayload k c.key, [], hlen, fun r hr => ?_, ?_, hkeyLen⟩, ?_, hk, rfl, rfl, rfl, rfl⟩
    · obtain rfl := Option.some.inj hr
      exact ⟨hbandFits, hchannelFits⟩
    · rw [keyPayload]
      by_cases hk : k = .none <;> simp [hk]
    · simp [Parts.bytes, version, radioBytes, currentVersion]
  · rintro ⟨f, rfl, hwrites⟩
    have hfits := f.fits_radio _ hwrites.radio
    refine ⟨f.scheme, _, _, _, _, hwrites.auth, writeString_eq_ok.2 ⟨?_, rfl⟩,
      writeInt_eq_ok.2 ⟨hfits.1, rfl⟩, writeInt_eq_ok.2 ⟨hfits.2, rfl⟩,
      writeKey_iff.2 ⟨?_, rfl⟩, ?_⟩
    · rw [← hwrites.name]
      exact f.length_name
    · rw [← hwrites.key]
      exact f.length_key
    · rw [← hwrites.name, ← hwrites.key, Parts.bytes, version, hwrites.radio, hwrites.rest]
      simp [radioBytes, currentVersion]

/-- The bytes of some parts are what is written of a configuration just if each part is: the
parts are told apart by the bytes. -/
theorem encode_eq_bytes : c.encode = .ok f.bytes ↔ f.Writes c := by
  rw [encode_iff]
  constructor
  · rintro ⟨g, hbytes, hwrites⟩
    rwa [← bytes_injective hbytes]
  · exact fun hwrites => ⟨f, rfl, hwrites⟩

/-! ## Writing what was read -/

/-- Version 2 is the one with band and channel. -/
theorem version_eq_two : f.version = 2 ↔ f.radio.isSome := by
  rw [version]
  cases f.radio.isSome <;> simp

/-- Band and channel are written as they were read just if they were there. -/
theorem radio_writes_iff (h : f.Reads c) :
    f.radio = some (c.band, c.channel) ↔ f.version = 2 := by
  rw [version_eq_two, h.radio]
  cases f.radio <;> simp

/-- The name is written as it was read just if its payload was plain. -/
theorem name_writes_iff (h : f.Reads c) :
    f.name = StoredString.encode (c.ssid.getD []) ↔ IsPlain f.name := by
  obtain ⟨t, ht, hssid⟩ := h.ssid
  rw [hssid, Option.getD_some, eq_comm, StoredString.encode_eq_iff ht]

/-- So is the key, which has no payload in an open network. -/
theorem key_writes_iff (h : f.Reads c) :
    f.key = keyPayload f.scheme c.key ↔ ∀ payload ∈ f.key, IsPlain payload := by
  have hread := h.key
  rw [keyPayload]
  cases hkey : f.key with
  | none => simp [f.key_eq_none.1 hkey]
  | some payload =>
    rw [hkey] at hread
    obtain ⟨t, ht, hc⟩ := hread
    have hne : f.scheme ≠ .none := fun hk => by
      rw [f.key_eq_none.2 hk] at hkey
      cases hkey
    rw [if_neg hne, hc, Option.getD_some, Option.some.injEq, eq_comm,
      StoredString.encode_eq_iff ht]
    simp

/-- The payloads are that of the name and that of the key, if there is a key. -/
theorem forall_mem_payloads {p : Bytes → Prop} :
    (∀ payload ∈ f.payloads, p payload) ↔ p f.name ∧ ∀ payload ∈ f.key, p payload := by
  rw [payloads, List.forall_mem_cons]
  simp only [Option.mem_toList, Option.mem_def]

/-- What is read from a file is written as the same file if the file is canonical, and
only then. -/
theorem writes_iff_of_reads (h : f.Reads c) : f.Writes c ↔ f.IsCanonical := by
  constructor
  · intro hw
    exact ⟨(radio_writes_iff h).1 hw.radio, hw.rest,
      forall_mem_payloads.2 ⟨(name_writes_iff h).1 hw.name, (key_writes_iff h).1 hw.key⟩⟩
  · intro hf
    obtain ⟨hname, hkey⟩ := forall_mem_payloads.1 hf.payloads
    exact ⟨auth_eq_ok.2 h.keyManagement, (name_writes_iff h).2 hname,
      (radio_writes_iff h).2 hf.version, (key_writes_iff h).2 hkey, hf.rest⟩

/-! ## Modified UTF-8 -/

/-- Every payload is modified UTF-8, 16-bit units that each stand by themselves. -/
def IsModified (f : Parts) : Prop :=
  ∀ payload ∈ f.payloads, ∃ units, payload = StoredString.ofUnits units

/-- What is written is modified UTF-8. -/
theorem Writes.isModified (h : f.Writes c) : f.IsModified := by
  refine forall_mem_payloads.2 ⟨?_, fun payload hp => ?_⟩
  · rw [h.name]
    exact StoredString.exists_units _
  · rw [h.key, keyPayload, Option.mem_def] at hp
    split at hp
    · cases hp
    · obtain rfl := Option.some.inj hp
      exact StoredString.exists_units _

/-- What is modified UTF-8 is plain: each unit is read as itself and written in the same way. -/
theorem isPlain_of_units {payload : Bytes} (h : ∃ units, payload = StoredString.ofUnits units) :
    IsPlain payload := by
  obtain ⟨units, rfl⟩ := h
  rw [← StoredString.encode_map_unitPoint]
  exact StoredString.isPlain_encode _

/-- What is written is canonical. -/
theorem Writes.isCanonical (h : f.Writes c) : f.IsCanonical :=
  ⟨version_eq_two.2 (h.radio ▸ rfl), h.rest,
    fun payload hp => isPlain_of_units (h.isModified payload hp)⟩

/-- What is modified UTF-8 is read without a fault. -/
theorem exists_decode_of_units {payload : Bytes}
    (h : ∃ units, payload = StoredString.ofUnits units) :
    ∃ t, StoredString.decode payload = .ok t := by
  obtain ⟨units, rfl⟩ := h
  rw [← StoredString.encode_map_unitPoint]
  exact ⟨_, StoredString.decode_encode _⟩

/-- Modified UTF-8 can be read. -/
theorem IsModified.exists_reads (h : f.IsModified) : ∃ c, f.Reads c := by
  obtain ⟨hname, hkey⟩ := forall_mem_payloads.1 h
  obtain ⟨name, hname⟩ := exists_decode_of_units hname
  have hread : ∃ key, KeyReads f.key key := by
    cases hf : f.key with
    | none => exact ⟨none, rfl⟩
    | some payload =>
      obtain ⟨key, hkey⟩ := exists_decode_of_units (hkey payload hf)
      exact ⟨some key, key, hkey, rfl⟩
  obtain ⟨key, hkey⟩ := hread
  exact ⟨{
    ssid := some name
    band := (f.radio.getD (0, 0)).1
    channel := (f.radio.getD (0, 0)).2
    keyManagement := some (KeySet.singleton f.scheme.code)
    key := key
    networkId := -1 }, ⟨name, hname, rfl⟩, rfl, rfl, hkey, rfl⟩

end Parts

/-- **A file is written back exactly if it is canonical.** A file that is read has its
parts in one way, and is written back if they are canonical, and only then. Every file
written is canonical, its strings in modified UTF-8, and every file of version 2 with
strings in modified UTF-8 and nothing behind its last field is read and written back. -/
theorem recode (bytes : Bytes) :
    (∀ c, decode bytes = .ok c → (∃! f : Parts, f.bytes = bytes) ∧
      ∀ f : Parts, f.bytes = bytes → (c.encode = .ok bytes ↔ f.IsCanonical)) ∧
    (∀ c, encode c = .ok bytes → ∃ f : Parts, f.bytes = bytes ∧ f.IsCanonical ∧ f.IsModified) ∧
    (∀ f : Parts, f.bytes = bytes → f.version = 2 → f.rest = [] → f.IsModified →
      ∃ c, decode bytes = .ok c ∧ c.encode = .ok bytes) := by
  refine ⟨fun c hc => ?_, fun c hc => ?_, ?_⟩
  · have hparts : ∀ f : Parts, f.bytes = bytes → (c.encode = .ok bytes ↔ f.IsCanonical) := by
      rintro f rfl
      rw [Parts.encode_eq_bytes, Parts.writes_iff_of_reads (Parts.decode_bytes.1 hc)]
    obtain ⟨f, hf, -⟩ := Parts.layout_iff.1 (decode_eq_ok.1 hc)
    exact ⟨⟨f, hf, fun g hg => Parts.bytes_injective (hg.trans hf.symm)⟩, hparts⟩
  · obtain ⟨f, hf, hwrites⟩ := Parts.encode_iff.1 hc
    exact ⟨f, hf, hwrites.isCanonical, hwrites.isModified⟩
  · rintro f rfl hversion hrest hmodified
    obtain ⟨c, hreads⟩ := hmodified.exists_reads
    have hcanonical : f.IsCanonical :=
      ⟨hversion, hrest, fun payload hp => Parts.isPlain_of_units (hmodified payload hp)⟩
    exact ⟨c, Parts.decode_bytes.2 hreads,
      Parts.encode_eq_bytes.2 ((Parts.writes_iff_of_reads hreads).2 hcanonical)⟩

/-- A pair of surrogates and a `NUL` in modified UTF-8 come back as they are, and the same
code point in four bytes does not. -/
theorem recode_of_pair :
    (∃ c, decode [0, 0, 0, 2, 0, 6, 0xED, 0xA0, 0xBD, 0xED, 0xB8, 0x80, 0, 0, 0, 1,
        0xFF, 0xFF, 0xFF, 0xFF, 0, 0, 0, 4, 0, 2, 0xC0, 0x80] = .ok c ∧
      c.encode = .ok [0, 0, 0, 2, 0, 6, 0xED, 0xA0, 0xBD, 0xED, 0xB8, 0x80, 0, 0, 0, 1,
        0xFF, 0xFF, 0xFF, 0xFF, 0, 0, 0, 4, 0, 2, 0xC0, 0x80]) ∧
    (∃ c, decode [0, 0, 0, 2, 0, 4, 0xF0, 0x9F, 0x98, 0x80, 0, 0, 0, 1,
        0, 0, 0, 0, 0, 0, 0, 0] = .ok c ∧
      c.encode ≠ .ok [0, 0, 0, 2, 0, 4, 0xF0, 0x9F, 0x98, 0x80, 0, 0, 0, 1,
        0, 0, 0, 0, 0, 0, 0, 0]) := by
  let modified : Parts := {
    name := [0xED, 0xA0, 0xBD, 0xED, 0xB8, 0x80], radio := some (1, -1), scheme := .wpa2Psk
    key := some [0xC0, 0x80], rest := []
    length_name := by decide
    fits_radio := by simp; decide
    key_eq_none := by decide
    length_key := by simp }
  let fourBytes : Parts := {
    name := [0xF0, 0x9F, 0x98, 0x80], radio := some (1, 0), scheme := .none
    key := none, rest := []
    length_name := by decide
    fits_radio := by simp; decide
    key_eq_none := by decide
    length_key := by simp }
  constructor
  · refine (recode _).2.2 modified (by decide) rfl rfl (Parts.forall_mem_payloads.2 ⟨?_, ?_⟩)
    · exact ⟨[0xD83D, 0xDE00], by decide⟩
    · intro payload hp
      obtain rfl : [0xC0, 0x80] = payload := Option.some.inj hp
      exact ⟨[0], by decide⟩
  · refine ⟨{ ssid := some [0x1F600], band := 1 }, by decide +kernel, fun hwritten => ?_⟩
    have hfour := (((recode _).1 _ (by decide +kernel)).2 fourBytes (by decide)).1 hwritten
    exact absurd (hfour.payloads fourBytes.name List.mem_cons_self) (by decide)

end Config
end Hotspot
