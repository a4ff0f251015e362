/-
# The layout of a configuration file

The table of `Hotspot.Config.Binary` as a relation between bytes and the
configuration they hold, field after field:

| field | bytes | condition |
| --- | --- | --- |
| version | `int32 1` or `int32 2` | |
| network name | `stringField payload` | the payload is a stored string |
| band, channel | none, or `int32 band ++ int32 channel` | version 1, or 2 |
| key-management code | `int32 code` | `0 ≤ code ≤ 4` |
| key | none, or `stringField payload` | code 0, or another |
| rest | any | |

Each reader of the decoder takes exactly the bytes of its field and leaves those
that follow (`Reads`). So the decoder accepts the bytes laid out in this way and
no others, and what it says of the others depends on the version alone
(`decode_iff_layout`).
-/

import Hotspot.Proofs.Config.BigEndian
import Hotspot.Proofs.Outcome

namespace Hotspot

/-- A code stands for the scheme that has it. -/
theorem KeyManagement.ofCode?_eq_some {i : Int} {k : KeyManagement} :
    KeyManagement.ofCode? i = some k ↔ k.code = i := by
  constructor
  · intro h
    simpa using List.find?_some h
  · rintro rfl
    exact KeyManagement.ofCode?_code k

/-- The codes are 0 to 4. -/
theorem KeyManagement.exists_code {i : Int} :
    (∃ k : KeyManagement, k.code = i) ↔ 0 ≤ i ∧ i ≤ 4 := by
  constructor
  · rintro ⟨k, rfl⟩
    cases k <;> decide
  · rintro ⟨h0, h4⟩
    obtain rfl | rfl | rfl | rfl | rfl : i = 0 ∨ i = 1 ∨ i = 2 ∨ i = 3 ∨ i = 4 := by omega
    exacts [⟨.none, rfl⟩, ⟨.wpaPsk, rfl⟩, ⟨.wpaEap, rfl⟩, ⟨.ieee8021x, rfl⟩, ⟨.wpa2Psk, rfl⟩]

/-- Only open networks have the code 0. -/
theorem KeyManagement.code_eq_zero {k : KeyManagement} : k.code = 0 ↔ k = .none := by
  cases k <;> decide

namespace Config

/-! ## Fields -/

/-- An integer on file. -/
def IntField (i : Int) (bytes : Bytes) : Prop :=
  FitsInt32 i ∧ bytes = int32 i

/-- A payload on file, behind its length. -/
def stringField (payload : Bytes) : Bytes :=
  bigEndian 2 payload.length ++ payload

/-- A text on file. -/
def StringField (t : Text) (bytes : Bytes) : Prop :=
  ∃ payload, payload.length ≤ 0xFFFF ∧ StoredString.decode payload = .ok t ∧
    bytes = stringField payload

/-- Band and channel on file, which version 1 does not have. -/
inductive RadioField : Int → Int → Int → Bytes → Prop
  | first : RadioField 1 0 0 []
  | second {band channel : Int} : FitsInt32 band → FitsInt32 channel →
    RadioField 2 band channel (int32 band ++ int32 channel)

/-- The key on file, which code 0 does not have. -/
inductive KeyField : Int → Option Text → Bytes → Prop
  | absent : KeyField 0 none []
  | present {code : Int} {key : Text} {bytes : Bytes} : code ≠ 0 → StringField key bytes →
    KeyField code (some key) bytes

/-- Bytes laid out as a configuration file, and the configuration they hold. -/
inductive Layout : Bytes → Config → Prop
  | intro {version band channel code : Int} {ssid : Text} {key : Option Text}
      {name radio keyBytes rest : Bytes} :
    StringField ssid name → RadioField version band channel radio → 0 ≤ code → code ≤ 4 →
    KeyField code key keyBytes →
    Layout (int32 version ++ (name ++ (radio ++ (int32 code ++ (keyBytes ++ rest)))))
      { ssid := some ssid, band, channel, keyManagement := some (KeySet.singleton code), key,
        networkId := -1 }

/-- A payload takes two bytes more than it has. -/
theorem length_stringField (payload : Bytes) :
    (stringField payload).length = 2 + payload.length := by
  rw [stringField, List.length_append, length_bigEndian]

/-- There are two versions. -/
theorem RadioField.version {version band channel : Int} {bytes : Bytes}
    (h : RadioField version band channel bytes) : version = 1 ∨ version = 2 := by
  cases h
  exacts [.inl rfl, .inr rfl]

/-! ## Readers -/

/-- A reader takes the bytes of a field and leaves the others; where there is no
such field the failure is one of reading. -/
structure Reads {α : Type} (read : Cursor → Except DecodeError (α × Cursor))
    (Field : α → Bytes → Prop) : Prop where
  ok_iff : ∀ {c r}, read c = .ok r ↔ ∃ a bytes rest, Field a bytes ∧ c.ahead = bytes ++ rest ∧
    r = (a, ⟨c.offset + bytes.length, rest⟩)
  kind : ∀ {c e}, read c = .error e → e.kind = .ioFailure

/-- Some bytes are taken if there are as many. -/
theorem Cursor.take_eq_ok {c : Cursor} {n : Nat} {r : Bytes × Cursor} :
    c.take n = .ok r ↔ ∃ bytes rest, bytes.length = n ∧ c.ahead = bytes ++ rest ∧
      r = (bytes, ⟨c.offset + n, rest⟩) := by
  rw [Cursor.take]
  constructor
  · intro h
    split at h
    · cases h
    · cases h
      exact ⟨_, _, by rw [List.length_take]; omega, (List.take_append_drop ..).symm, rfl⟩
  · rintro ⟨bytes, rest, rfl, ha, rfl⟩
    rw [if_neg (by rw [ha, List.length_append]; omega), ha, List.take_left, List.drop_left]

/-- Taking bytes that are not there is a failure of reading. -/
theorem Cursor.kind_take {c : Cursor} {n : Nat} {e : DecodeError} (h : c.take n = .error e) :
    e.kind = .ioFailure := by
  rw [Cursor.take] at h
  split at h <;> cases h
  rfl

/-- An integer is read from its four bytes. -/
theorem reads_readInt : Reads readInt IntField where
  ok_iff := by
    intro c r
    rw [readInt, bind_eq_ok]
    constructor
    · rintro ⟨_, h, hr⟩
      obtain ⟨bytes, rest, hlen, ha, rfl⟩ := Cursor.take_eq_ok.1 h
      cases hr
      exact ⟨_, bytes, rest, ⟨fitsInt32_signed hlen, (int32_signed hlen).symm⟩, ha, by rw [hlen]⟩
    · rintro ⟨i, _, rest, ⟨hi, rfl⟩, ha, rfl⟩
      refine ⟨_, Cursor.take_eq_ok.2 ⟨_, rest, length_int32 i, ha, rfl⟩, ?_⟩
      dsimp only
      rw [signed_int32 hi, length_int32]
      rfl
  kind := by
    intro c e h
    rcases bind_eq_error.1 h with h | ⟨_, -, h⟩
    · exact Cursor.kind_take h
    · cases h

/-- A text is read from its length and its payload, if the payload can be read. -/
theorem reads_readString : Reads readString StringField where
  ok_iff := by
    intro c r
    rw [readString, bind_eq_ok]
    constructor
    · rintro ⟨_, h, hr⟩
      obtain ⟨length, rest, hlen, ha, rfl⟩ := Cursor.take_eq_ok.1 h
      obtain ⟨_, h, hr⟩ := bind_eq_ok.1 hr
      obtain ⟨payload, rest, hpayload, rfl, rfl⟩ := Cursor.take_eq_ok.1 h
      have hlength : bigEndian 2 payload.length = length := by
        rw [hpayload, ← hlen, bigEndian_unsigned]
      have hmax := unsigned_lt length
      rw [hlen] at hmax
      dsimp only at hr
      split at hr
      · next t ht =>
        cases hr
        refine ⟨t, stringField payload, rest, ⟨payload, by omega, ht, rfl⟩, ?_, ?_⟩
        · rw [ha, stringField, hlength, List.append_assoc]
        · rw [length_stringField, hpayload, Nat.add_assoc]
      · cases hr
    · rintro ⟨t, _, rest, ⟨payload, hmax, ht, rfl⟩, ha, rfl⟩
      rw [stringField, List.append_assoc] at ha
      refine ⟨_, Cursor.take_eq_ok.2 ⟨_, _, length_bigEndian 2 _, ha, rfl⟩, ?_⟩
      have hlength : unsigned (bigEndian 2 payload.length) = payload.length :=
        unsigned_bigEndian (by omega)
      refine bind_eq_ok.2 ⟨_, Cursor.take_eq_ok.2 ⟨_, _, hlength.symm, rfl, rfl⟩, ?_⟩
      dsimp only
      rw [ht, hlength, length_stringField, Nat.add_assoc]
      rfl
  kind := by
    intro c e h
    rcases bind_eq_error.1 h with h | ⟨_, -, h⟩
    · exact Cursor.kind_take h
    rcases bind_eq_error.1 h with h | ⟨_, -, h⟩
    · exact Cursor.kind_take h
    dsimp only at h
    split at h <;> cases h
    rfl

/-- A scheme is read from its code, and from no other number. -/
theorem reads_readScheme : Reads readScheme fun k bytes => bytes = int32 k.code where
  ok_iff := by
    intro c r
    rw [readScheme, bind_eq_ok]
    constructor
    · rintro ⟨_, h, hr⟩
      obtain ⟨code, _, rest, ⟨-, rfl⟩, ha, rfl⟩ := reads_readInt.ok_iff.1 h
      dsimp only at hr
      split at hr
      · next k hk =>
        cases hr
        rw [KeyManagement.ofCode?_eq_some] at hk
        subst hk
        exact ⟨k, _, rest, rfl, ha, rfl⟩
      · cases hr
    · rintro ⟨k, _, rest, rfl, ha, rfl⟩
      have hfits : FitsInt32 k.code := by cases k <;> decide
      refine ⟨_, reads_readInt.ok_iff.2 ⟨_, _, rest, ⟨hfits, rfl⟩, ha, rfl⟩, ?_⟩
      dsimp only
      rw [KeyManagement.ofCode?_code]
      rfl
  kind := by
    intro c e h
    rcases bind_eq_error.1 h with h | ⟨_, -, h⟩
    · exact reads_readInt.kind h
    dsimp only at h
    split at h <;> cases h
    rfl

/-- A key is read unless the network is open. -/
theorem reads_readKey (k : KeyManagement) : Reads (readKey k) (KeyField k.code) where
  ok_iff := by
    intro c r
    by_cases hk : k = .none
    · subst hk
      constructor
      · intro h
        cases h
        exact ⟨none, [], c.ahead, .absent, rfl, rfl⟩
      · rintro ⟨_, _, rest, h, ha, rfl⟩
        cases h with
        | absent => rw [readKey, ← ha.trans (List.nil_append rest)]; rfl
        | present h _ => exact absurd rfl h
    · have hread : readKey k c = readString c >>= fun r => pure (some r.1, r.2) := by
        cases k with
        | none => exact absurd rfl hk
        | _ => rfl
      rw [hread, bind_eq_ok]
      constructor
      · rintro ⟨_, h, hr⟩
        obtain ⟨key, bytes, rest, hkey, ha, rfl⟩ := reads_readString.ok_iff.1 h
        cases hr
        exact ⟨_, bytes, rest, .present (mt KeyManagement.code_eq_zero.1 hk) hkey, ha, rfl⟩
      · rintro ⟨_, bytes, rest, h, ha, rfl⟩
        generalize hcode : k.code = code at h
        cases h with
        | absent => exact absurd (KeyManagement.code_eq_zero.1 hcode) hk
        | present _ h => exact ⟨_, reads_readString.ok_iff.2 ⟨_, bytes, rest, h, ha, rfl⟩, rfl⟩
  kind := by
    intro c e h
    cases k with
    | none => cases h
    | _ =>
      rcases bind_eq_error.1 h with h | ⟨_, -, h⟩
      · exact reads_readString.kind h
      · cases h

/-- Band and channel are read as the version has them. -/
theorem readRadio_eq_ok {version : Int} (hv : version = 1 ∨ version = 2) {c : Cursor}
    {r : Int × Int × Cursor} :
    readRadio version c = .ok r ↔ ∃ band channel bytes rest,
      RadioField version band channel bytes ∧ c.ahead = bytes ++ rest ∧
        r = (band, channel, ⟨c.offset + bytes.length, rest⟩) := by
  rcases hv with rfl | rfl
  · rw [readRadio, if_pos rfl]
    constructor
    · intro h
      cases h
      exact ⟨0, 0, [], c.ahead, .first, rfl, rfl⟩
    · rintro ⟨_, _, _, rest, h, ha, rfl⟩
      cases h
      rw [← ha.trans (List.nil_append rest)]
      rfl
  · rw [readRadio, if_neg (by decide), bind_eq_ok]
    constructor
    · rintro ⟨_, h, hr⟩
      obtain ⟨band, _, _, ⟨hband, rfl⟩, ha, rfl⟩ := reads_readInt.ok_iff.1 h
      obtain ⟨_, h, hr⟩ := bind_eq_ok.1 hr
      obtain ⟨channel, _, rest, ⟨hchannel, rfl⟩, rfl, rfl⟩ := reads_readInt.ok_iff.1 h
      cases hr
      refine ⟨band, channel, _, rest, .second hband hchannel, ?_, ?_⟩
      · rw [ha, List.append_assoc]
      · rw [List.length_append, Nat.add_assoc]
    · rintro ⟨_, _, _, rest, h, ha, rfl⟩
      cases h with
      | second hband hchannel =>
        rw [List.append_assoc] at ha
        refine ⟨_, reads_readInt.ok_iff.2 ⟨_, _, _, ⟨hband, rfl⟩, ha, rfl⟩, ?_⟩
        refine bind_eq_ok.2 ⟨_, reads_readInt.ok_iff.2 ⟨_, _, _, ⟨hchannel, rfl⟩, rfl, rfl⟩, ?_⟩
        rw [List.length_append, Nat.add_assoc]
        rfl

/-- Where band or channel is missing, reading fails. -/
theorem kind_readRadio {version : Int} {c : Cursor} {e : DecodeError}
    (h : readRadio version c = .error e) : e.kind = .ioFailure := by
  rw [readRadio] at h
  split at h
  · cases h
  rcases bind_eq_error.1 h with h | ⟨_, -, h⟩
  · exact reads_readInt.kind h
  rcases bind_eq_error.1 h with h | ⟨_, -, h⟩
  · exact reads_readInt.kind h
  · cases h

/-! ## The whole file -/

/-- What follows a known version is read as it is laid out. -/
theorem decodeBody_eq_ok {version : Int} (hv : version = 1 ∨ version = 2) {c : Cursor}
    {config : Config} :
    decodeBody version c = .ok config ↔ Layout (int32 version ++ c.ahead) config := by
  rw [decodeBody, bind_eq_ok]
  constructor
  · rintro ⟨_, h, hr⟩
    obtain ⟨ssid, name, _, hname, ha, rfl⟩ := reads_readString.ok_iff.1 h
    obtain ⟨_, h, hr⟩ := bind_eq_ok.1 hr
    obtain ⟨band, channel, radio, _, hradio, rfl, rfl⟩ := (readRadio_eq_ok hv).1 h
    obtain ⟨_, h, hr⟩ := bind_eq_ok.1 hr
    obtain ⟨k, _, _, rfl, rfl, rfl⟩ := reads_readScheme.ok_iff.1 h
    obtain ⟨_, h, hr⟩ := bind_eq_ok.1 hr
    obtain ⟨key, keyBytes, rest, hkey, rfl, rfl⟩ := (reads_readKey k).ok_iff.1 h
    cases hr
    obtain ⟨h0, h4⟩ := KeyManagement.exists_code.1 ⟨k, rfl⟩
    rw [ha]
    exact .intro hname hradio h0 h4 hkey
  · intro h
    generalize hbytes : int32 version ++ c.ahead = bytes at h
    cases h with
    | @intro version' band channel code ssid key name radio keyBytes rest hname hradio h0 h4 hkey =>
      obtain ⟨hversion, ha⟩ := List.append_inj hbytes (by rw [length_int32, length_int32])
      have hv' : version' = version := by
        have hfits {v : Int} (h : v = 1 ∨ v = 2) : FitsInt32 v := by
          rcases h with rfl | rfl <;> decide
        rw [← signed_int32 (hfits hradio.version), ← hversion, signed_int32 (hfits hv)]
      subst hv'
      obtain ⟨k, rfl⟩ := KeyManagement.exists_code.2 ⟨h0, h4⟩
      refine ⟨_, reads_readString.ok_iff.2 ⟨ssid, name, _, hname, ha, rfl⟩, ?_⟩
      refine bind_eq_ok.2 ⟨_, (readRadio_eq_ok hv).2 ⟨_, _, _, _, hradio, rfl, rfl⟩, ?_⟩
      refine bind_eq_ok.2 ⟨_, reads_readScheme.ok_iff.2 ⟨k, _, _, rfl, rfl, rfl⟩, ?_⟩
      exact bind_eq_ok.2 ⟨_, (reads_readKey k).ok_iff.2 ⟨_, _, rest, hkey, rfl, rfl⟩, rfl⟩

/-- Behind the version every failure is one of reading. -/
theorem kind_decodeBody {version : Int} {c : Cursor} {e : DecodeError}
    (h : decodeBody version c = .error e) : e.kind = .ioFailure := by
  rcases bind_eq_error.1 h with h | ⟨_, -, h⟩
  · exact reads_readString.kind h
  rcases bind_eq_error.1 h with h | ⟨_, -, h⟩
  · exact kind_readRadio h
  rcases bind_eq_error.1 h with h | ⟨_, -, h⟩
  · exact reads_readScheme.kind h
  rcases bind_eq_error.1 h with h | ⟨_, -, h⟩
  · exact (reads_readKey _).kind h
  · cases h

/-- Bytes that start with the number of a known version. -/
def HasVersion (bytes : Bytes) : Prop :=
  4 ≤ bytes.length ∧ (signed (bytes.take 4) = 1 ∨ signed (bytes.take 4) = 2)

/-- Where the version is known, the rest is read according to it. -/
theorem decode_of_hasVersion {bytes : Bytes} (h : HasVersion bytes) :
    decode bytes = decodeBody (signed (bytes.take 4)) ⟨4, bytes.drop 4⟩ := by
  rw [decode, if_neg (by have := h.1; omega), if_pos h.2]

/-- Where it is not, nothing more is read. -/
theorem kind_decode_of_not_hasVersion {bytes : Bytes} (h : ¬HasVersion bytes) :
    ∃ e, decode bytes = .error e ∧ e.kind = .badVersion := by
  rw [decode]
  split
  · exact ⟨_, rfl, rfl⟩
  · rw [if_neg fun hv => h ⟨by omega, hv⟩]
    exact ⟨_, rfl, rfl⟩

/-- A file that is laid out starts with its version. -/
theorem Layout.hasVersion {bytes : Bytes} {c : Config} (h : Layout bytes c) :
    HasVersion bytes := by
  cases h with
  | @intro version _ _ _ _ _ _ _ _ _ _ hradio =>
    refine ⟨by rw [List.length_append, length_int32]; omega, ?_⟩
    rw [List.take_left' (length_int32 _)]
    rcases hradio.version with rfl | rfl
    exacts [.inl (signed_int32 (by decide)), .inr (signed_int32 (by decide))]

/-- The decoder accepts what is laid out as a file, and reads what the layout says. -/
theorem decode_eq_ok {bytes : Bytes} {c : Config} : decode bytes = .ok c ↔ Layout bytes c := by
  by_cases h : HasVersion bytes
  · have hlen : (bytes.take 4).length = 4 := by
      rw [List.length_take]
      exact Nat.min_eq_left h.1
    rw [decode_of_hasVersion h, decodeBody_eq_ok h.2, int32_signed hlen, List.take_append_drop]
  · obtain ⟨e, he, -⟩ := kind_decode_of_not_hasVersion h
    rw [he]
    exact ⟨fun hc => (by cases hc), fun hc => absurd hc.hasVersion h⟩

/-- The kind of a failure tells whether the version is known. -/
theorem kind_of_decode_eq_error {bytes : Bytes} {e : DecodeError} (h : decode bytes = .error e) :
    e.kind = .badVersion ↔ ¬HasVersion bytes := by
  by_cases hv : HasVersion bytes
  · rw [decode_of_hasVersion hv] at h
    rw [kind_decodeBody h]
    exact ⟨fun he => (by cases he), fun he => absurd hv he⟩
  · obtain ⟨e', he', hkind⟩ := kind_decode_of_not_hasVersion hv
    obtain rfl : e' = e := Except.error.inj (he'.symm.trans h)
    exact ⟨fun _ => hv, fun _ => hkind⟩

/-- **The decoder accepts exactly the files of the format.** Bytes are read as a
configuration if and only if they are laid out as its file, whatever follows; all
other bytes are refused, for their version if they are too short for one or have
an unknown one, and as unreadable otherwise. -/
theorem decode_iff_layout (bytes : Bytes) :
    (∀ c, decode bytes = .ok c ↔ Layout bytes c) ∧
      ((∃ e, decode bytes = .error e) ↔ ¬∃ c, Layout bytes c) ∧
      ∀ e, decode bytes = .error e →
        (e.kind = .badVersion ↔ bytes.length < 4 ∨
          signed (bytes.take 4) ≠ 1 ∧ signed (bytes.take 4) ≠ 2) ∧
        (e.kind = .ioFailure ↔ ¬(bytes.length < 4 ∨
          signed (bytes.take 4) ≠ 1 ∧ signed (bytes.take 4) ≠ 2)) := by
  have hversion : (bytes.length < 4 ∨ signed (bytes.take 4) ≠ 1 ∧ signed (bytes.take 4) ≠ 2) ↔
      ¬HasVersion bytes := by
    rw [HasVersion, not_and_or, Nat.not_le, not_or]
  refine ⟨fun c => decode_eq_ok, ?_, fun e he => ?_⟩
  · constructor
    · rintro ⟨e, he⟩ ⟨c, hc⟩
      rw [decode_eq_ok.2 hc] at he
      cases he
    · intro hnone
      cases h : decode bytes with
      | error e => exact ⟨e, rfl⟩
      | ok c => exact absurd ⟨c, decode_eq_ok.1 h⟩ hnone
  · rw [hversion, ← kind_of_decode_eq_error he]
    refine ⟨Iff.rfl, ?_⟩
    cases e.kind <;> simp

/-- A file of version 1 with a key and a byte behind it: no band, no channel. -/
example : decode ([0, 0, 0, 1, 0, 1, 0x61, 0, 0, 0, 4, 0, 1, 0x62, 0xFF]) =
    .ok { ssid := some [0x61], keyManagement := some (KeySet.singleton 4),
          key := some [0x62] } := by
  cbv

end Config
end Hotspot
