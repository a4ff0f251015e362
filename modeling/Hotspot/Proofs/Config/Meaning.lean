/-
# What a configuration means on file

Several configurations may be written as the same bytes. A file says nothing of a
network identifier, nothing of the key of an open network, and no more of an absent
text than of an empty one; and a text in it is a sequence of 16-bit units, so that two
surrogates are not told from the code point they make up.

| configurations differ in | bytes |
| --- | --- |
| network identifier | the same |
| key of an open network | the same |
| a text that is absent, or empty | the same |
| a pair of surrogates, or its code point | the same |
| anything else | others |

Two configurations mean the same if they differ in nothing but this (`SameMeaning`).
A file is read as the one among those of its meaning that is in canonical form
(`canon_of_decode`).
-/

import Hotspot.Proofs.Config.Canonical

namespace Hotspot
namespace Config

variable {c c' : Config} {bytes bytes' : Bytes}

/-- Two configurations mean the same on file: they have the same scheme, band and channel,
the same name, and the same key if the scheme has one, an absent text being empty and the
pairs of surrogates being joined. -/
structure SameMeaning (c c' : Config) : Prop where
  auth : c.auth = c'.auth
  ssid : (c.ssid.getD []).pairUp = (c'.ssid.getD []).pairUp
  band : c.band = c'.band
  channel : c.channel = c'.channel
  key : c.auth ≠ .ok .none → (c.key.getD []).pairUp = (c'.key.getD []).pairUp

/-! ## Writing -/

/-- Texts that are the same once their pairs are joined are written in one way; none is written
as the empty one. -/
theorem writeString_congr {field : Field} {t t' : Option Text}
    (h : (t.getD []).pairUp = (t'.getD []).pairUp) :
    writeString field t = writeString field t' := by
  rw [writeString, writeString, StoredString.encode_eq_encode_iff.2 h]

/-- So are keys. In an open network no key is written, so any two are. -/
theorem writeKey_congr {k : KeyManagement} {key key' : Option Text}
    (h : k ≠ .none → (key.getD []).pairUp = (key'.getD []).pairUp) :
    writeKey k key = writeKey k key' := by
  cases k with
  | none => rfl
  | _ => exact writeString_congr (h nofun)

/-- What means the same is written as the same bytes, or refused for the same reason. -/
theorem SameMeaning.encode (h : SameMeaning c c') : c.encode = c'.encode := by
  rw [Config.encode, Config.encode, ← h.auth, writeString_congr h.ssid, h.band, h.channel]
  cases hauth : c.auth with
  | error failure => rfl
  | ok k =>
    have hkey : writeKey k c.key = writeKey k c'.key :=
      writeKey_congr fun hk => h.key (by rw [hauth]; exact fun heq => hk (Except.ok.inj heq))
    dsimp only [Except.mapError, bind, Except.bind]
    rw [hkey]

/-! ## Canonical form -/

/-- The canonical form has the same scheme. -/
theorem auth_canon (c : Config) : c.canon.auth = c.auth := rfl

/-- In a network that is not open it has a key, with the pairs joined. -/
theorem canon_key_of_auth_ne (h : c.auth ≠ .ok .none) :
    c.canon.key = some (c.key.getD []).pairUp := by
  rw [canon]
  dsimp only
  split
  · next hauth => exact absurd hauth h
  · rfl

/-- A configuration that is read is in canonical form. -/
theorem canon_of_decode (h : decode bytes = .ok c) : c.canon = c := by
  obtain ⟨f, rfl, hreads⟩ := Parts.layout_iff.1 (decode_eq_ok.1 h)
  have hauth : c.auth = .ok f.scheme := auth_eq_ok.2 hreads.keyManagement
  obtain ⟨name, hname, hssid⟩ := hreads.ssid
  have hkey : c.canon.key = c.key := by
    have hread := hreads.key
    by_cases hk : f.scheme = .none
    · rw [f.key_eq_none.2 hk] at hread
      rw [canon, hauth, hk]
      exact hread.symm
    · obtain ⟨payload, hpayload⟩ := Option.ne_none_iff_exists'.1 (mt f.key_eq_none.1 hk)
      rw [hpayload] at hread
      obtain ⟨key, hdecode, hkey⟩ := hread
      rw [canon_key_of_auth_ne (by rw [hauth]; exact fun heq => hk (Except.ok.inj heq)), hkey,
        Option.getD_some, StoredString.pairUp_of_decode hdecode]
  have hssid' : c.canon.ssid = c.ssid := by
    rw [canon, hssid, Option.getD_some, StoredString.pairUp_of_decode hname]
  calc c.canon = { c.canon with ssid := c.ssid, key := c.key, networkId := -1 } := by
        rw [← hssid', ← hkey]
        rfl
    _ = c := by rw [← hreads.networkId]; rfl

/-- Configurations with one canonical form mean the same. -/
theorem sameMeaning_of_canon (h : c.canon = c'.canon) : SameMeaning c c' := by
  have hauth : c.auth = c'.auth := by rw [← c.auth_canon, h, auth_canon]
  refine ⟨hauth, Option.some.inj (congrArg (·.ssid) h), congrArg (·.band) h,
    congrArg (·.channel) h, fun hne => ?_⟩
  have hkey : c.canon.key = c'.canon.key := by rw [h]
  rw [canon_key_of_auth_ne hne, canon_key_of_auth_ne (hauth ▸ hne)] at hkey
  exact Option.some.inj hkey

/-- **Two configurations have the same bytes exactly if they mean the same.** So neither
the network identifier nor the key of an open network has any part in what is written. -/
theorem bytes_eq_iff_sameMeaning (c c' : Config) :
    (∀ bytes bytes', c.encode = .ok bytes → c'.encode = .ok bytes' →
      (bytes = bytes' ↔ SameMeaning c c')) ∧
    (∀ networkId, encode { c with networkId } = encode c) ∧
    ∀ key, c.auth = .ok .none → encode { c with key } = encode c := by
  refine ⟨fun bytes bytes' hc hc' => ⟨?_, fun h => ?_⟩, fun networkId => ?_, fun key hopen => ?_⟩
  · rintro rfl
    have hread := decode_of_encode hc
    rw [decode_of_encode hc', Except.ok.injEq] at hread
    exact sameMeaning_of_canon hread.symm
  · rw [h.encode, hc', Except.ok.injEq] at hc
    exact hc.symm
  · exact SameMeaning.encode ⟨rfl, rfl, rfl, rfl, fun _ => rfl⟩
  · exact SameMeaning.encode ⟨rfl, rfl, rfl, rfl, fun hne => absurd hopen hne⟩

/-- A pair of surrogates and the code point it makes up, in an open network with a key and
one without: the same bytes. The surrogates the other way round: other bytes. -/
theorem bytes_eq_of_pair :
    ∃ bytes bytes' bytes'',
      encode { ssid := some [0xD83D, 0xDE00], key := some [0x61], networkId := 7 } = .ok bytes ∧
      encode { ssid := some [0x1F600] } = .ok bytes' ∧
      encode { ssid := some [0xDE00, 0xD83D] } = .ok bytes'' ∧
      bytes = bytes' ∧ bytes ≠ bytes'' := by
  have hpair : encode { ssid := some [0xD83D, 0xDE00], key := some [0x61], networkId := 7 } =
      .ok [0, 0, 0, 2, 0, 6, 0xED, 0xA0, 0xBD, 0xED, 0xB8, 0x80,
        0, 0, 0, 0, 0, 0, 0, 0, 0, 0, 0, 0] := by rfl
  have hpoint : encode { ssid := some [0x1F600] } =
      .ok [0, 0, 0, 2, 0, 6, 0xED, 0xA0, 0xBD, 0xED, 0xB8, 0x80,
        0, 0, 0, 0, 0, 0, 0, 0, 0, 0, 0, 0] := by rfl
  have hturned : encode { ssid := some [0xDE00, 0xD83D] } =
      .ok [0, 0, 0, 2, 0, 6, 0xED, 0xB8, 0x80, 0xED, 0xA0, 0xBD,
        0, 0, 0, 0, 0, 0, 0, 0, 0, 0, 0, 0] := by rfl
  refine ⟨_, _, _, hpair, hpoint, hturned, ?_, fun heq => ?_⟩
  · refine ((bytes_eq_iff_sameMeaning _ _).1 _ _ hpair hpoint).2 ?_
    exact ⟨rfl, by decide, rfl, rfl, fun hne => absurd rfl hne⟩
  · have hname := (((bytes_eq_iff_sameMeaning _ _).1 _ _ hpair hturned).1 heq).ssid
    exact absurd hname (by decide)

end Config
end Hotspot
