/-
# Configurations that can be stored

A configuration has bytes if its set comes to one scheme, its numbers fit 32 bits and its
texts fit a length of 16 bits (`exists_encode`). How far the texts are from that bound
depends on where the configuration comes from:

| configuration | bytes of its texts on file |
| --- | --- |
| acceptable | at most 64 for the name, 126 for the key |
| read from a file | as many as its payloads have, and those that modified UTF-8 adds |

So of an acceptable configuration only the numbers may be refused (`storage_of_acceptable`).
A file may have been written by another program in sequences of four and with bytes `00`,
and a payload that just fits its length then grows beyond it when it is saved again
(`resaving`).
-/

import Hotspot.Proofs.Config.Acceptable
import Hotspot.Proofs.Config.Meaning
import Hotspot.Proofs.Text.StoredSize

namespace Hotspot
namespace Config

open StoredString (rewrittenSize)

variable {c : Config} {k : KeyManagement} {bytes : Bytes}

/-! ## What can be written -/

/-- **A configuration can be written** exactly if its set comes to one scheme, its name fits
its length, its numbers fit 32 bits, and its key fits its length if it is written. -/
theorem exists_encode : (∃ bytes, c.encode = .ok bytes) ↔ ∃ k, c.auth = .ok k ∧
    (StoredString.encode (c.ssid.getD [])).length ≤ 0xFFFF ∧ FitsInt32 c.band ∧
      FitsInt32 c.channel ∧
        (k ≠ .none → (StoredString.encode (c.key.getD [])).length ≤ 0xFFFF) := by
  constructor
  · rintro ⟨bytes, h⟩
    obtain ⟨k, name, band, channel, key, hk, hname, hband, hchannel, hkey, -⟩ := encode_eq_ok.1 h
    refine ⟨k, hk, (writeString_eq_ok.1 hname).1, (writeInt_eq_ok.1 hband).1,
      (writeInt_eq_ok.1 hchannel).1, fun hne => ?_⟩
    rcases writeKey_eq_ok.1 hkey with ⟨hopen, -⟩ | ⟨-, hmax, -⟩
    · exact absurd hopen hne
    · exact hmax
  · rintro ⟨k, hk, hname, hband, hchannel, hkey⟩
    have hwritten : ∃ bytes, writeKey k c.key = .ok bytes := by
      by_cases hopen : k = .none
      · exact ⟨_, writeKey_eq_ok.2 (.inl ⟨hopen, rfl⟩)⟩
      · exact ⟨_, writeKey_eq_ok.2 (.inr ⟨hopen, hkey hopen, rfl⟩)⟩
    obtain ⟨key, hkey⟩ := hwritten
    exact ⟨_, encode_eq_ok.2 ⟨k, _, _, _, key, hk, writeString_eq_ok.2 ⟨hname, rfl⟩,
      writeInt_eq_ok.2 ⟨hband, rfl⟩, writeInt_eq_ok.2 ⟨hchannel, rfl⟩, hkey, rfl⟩⟩

/-- The bytes of a configuration are those of its texts, and 18 or 20 more. -/
theorem length_of_encode (hk : c.auth = .ok k) (h : c.encode = .ok bytes) :
    bytes.length = 18 + (StoredString.encode (c.ssid.getD [])).length +
      if k = .none then 0 else 2 + (StoredString.encode (c.key.getD [])).length := by
  obtain ⟨k', name, band, channel, key, hk', hname, hband, hchannel, hkey, rfl⟩ :=
    encode_eq_ok.1 h
  obtain rfl : k = k' := Except.ok.inj (hk.symm.trans hk')
  obtain ⟨-, rfl⟩ := writeString_eq_ok.1 hname
  obtain ⟨-, rfl⟩ := writeInt_eq_ok.1 hband
  obtain ⟨-, rfl⟩ := writeInt_eq_ok.1 hchannel
  simp only [List.length_append, length_int32, length_stringField]
  rcases writeKey_eq_ok.1 hkey with ⟨hopen, rfl⟩ | ⟨hne, -, rfl⟩
  · rw [if_pos hopen, List.length_nil]
    omega
  · rw [if_neg hne, length_stringField]
    omega

/-- A text is refused for its size and for nothing else. -/
theorem tooLong_of_writeString {field : Field} {t : Option Text} {e : EncodeError}
    (h : writeString field t = .error e) : ∃ size, e = .tooLong field size := by
  rw [writeString] at h
  split at h
  · cases h
  · exact ⟨_, (Except.error.inj h).symm⟩

/-- So is a key. -/
theorem tooLong_of_writeKey {key : Option Text} {e : EncodeError}
    (h : writeKey k key = .error e) : ∃ size, e = .tooLong .key size := by
  cases k with
  | none => cases h
  | _ => exact tooLong_of_writeString h

/-- If the numbers fit and there is a scheme, nothing is refused but the length of a text. -/
theorem tooLong_of_encode {e : EncodeError} (hk : c.auth = .ok k) (hband : FitsInt32 c.band)
    (hchannel : FitsInt32 c.channel) (h : c.encode = .error e) :
    ∃ field size, e = .tooLong field size := by
  rw [encode, hk, writeInt_eq_ok.2 ⟨hband, rfl⟩, writeInt_eq_ok.2 ⟨hchannel, rfl⟩] at h
  rcases bind_eq_error.1 h with h | ⟨_, hscheme, h⟩
  · cases h
  obtain rfl := Except.ok.inj hscheme
  rcases bind_eq_error.1 h with h | ⟨_, -, h⟩
  · exact ⟨_, tooLong_of_writeString h⟩
  rcases bind_eq_error.1 h with h | ⟨_, -, h⟩
  · cases h
  rcases bind_eq_error.1 h with h | ⟨_, -, h⟩
  · cases h
  rcases bind_eq_error.1 h with h | ⟨_, -, h⟩
  · exact ⟨_, tooLong_of_writeKey h⟩
  · cases h

/-! ## Acceptable configurations -/

/-- An acceptable configuration is open, or protected by a key. -/
theorem auth_of_check (h : c.check = none) : c.auth = .ok .none ∨ c.auth = .ok .wpa2Psk :=
  (checkSecurity_eq_none.1 (check_eq_none.1 h).2).imp And.left And.left

/-- A name of at most 32 bytes has at most 64 on file. -/
theorem length_ssid_of_check (h : c.check = none) :
    (StoredString.encode (c.ssid.getD [])).length ≤ 64 := by
  obtain ⟨name, hname, -, hmax, -⟩ := checkSsid_eq_none.1 (check_eq_none.1 h).1
  have hsize := StoredString.length_encode_le name
  rw [hname, Option.getD_some]
  omega

/-- A key of at most 63 bytes has at most 126 on file. -/
theorem length_key_of_check (h : c.check = none) :
    (StoredString.encode (c.key.getD [])).length ≤ 126 := by
  rcases checkSecurity_eq_none.1 (check_eq_none.1 h).2 with
    ⟨-, hkey | hkey⟩ | ⟨-, key, hkey, hcheck⟩
  · rw [hkey]
    exact Nat.zero_le _
  · rw [hkey]
    exact Nat.zero_le _
  · obtain ⟨-, hmax, -⟩ := checkKey_eq_none.1 hcheck
    have hsize := StoredString.length_encode_le key
    rw [hkey, Option.getD_some]
    omega

/-- The key that is read back: that of a protected network, and none of an open one. -/
theorem key_canon_of_check (h : c.check = none) :
    c.auth = .ok .none ∧ c.canon.key = none ∨ c.auth = .ok .wpa2Psk ∧ c.canon.key = c.key := by
  rcases checkSecurity_eq_none.1 (check_eq_none.1 h).2 with ⟨hopen, -⟩ | ⟨hauth, key, hkey, hcheck⟩
  · exact .inl ⟨hopen, by rw [canon, hopen]⟩
  · exact .inr ⟨hauth, by rw [key_canon hauth hkey hcheck, hkey]⟩

/-- **An acceptable configuration can be stored, and comes back unchanged.** It has bytes
exactly if its numbers fit, at most 210 of them, and what is read of these is as acceptable
as the configuration and differs from it at most in the key of an open network and in the
network identifier. -/
theorem storage_of_acceptable (h : c.check = none) :
    ((∃ bytes, c.encode = .ok bytes) ↔ FitsInt32 c.band ∧ FitsInt32 c.channel) ∧
      ∀ bytes, c.encode = .ok bytes → bytes.length ≤ 210 ∧
        ∃ c', decode bytes = .ok c' ∧ c'.ssid = c.ssid ∧ c'.band = c.band ∧
          c'.channel = c.channel ∧ c'.keyManagement = c.keyManagement ∧
          (c.auth = .ok .none ∧ c'.key = none ∨ c.auth = .ok .wpa2Psk ∧ c'.key = c.key) ∧
          c'.networkId = -1 ∧ c'.check = none := by
  have hssid := length_ssid_of_check h
  have hkey := length_key_of_check h
  refine ⟨?_, fun bytes hbytes => ⟨?_, c.canon, decode_of_encode hbytes,
    ssid_canon (check_eq_none.1 h).1, rfl, rfl, rfl, key_canon_of_check h, rfl, check_canon h⟩⟩
  · rw [exists_encode]
    constructor
    · rintro ⟨k, -, -, hband, hchannel, -⟩
      exact ⟨hband, hchannel⟩
    · rintro ⟨hband, hchannel⟩
      rcases auth_of_check h with hauth | hauth
      · exact ⟨_, hauth, by omega, hband, hchannel, fun _ => by omega⟩
      · exact ⟨_, hauth, by omega, hband, hchannel, fun _ => by omega⟩
  · obtain ⟨k, hk, -⟩ := exists_encode.1 ⟨bytes, hbytes⟩
    rw [length_of_encode hk hbytes]
    split_ifs <;> omega

/-- Nothing but `NUL`, as long as it may be: all of the 210 bytes are needed. -/
theorem storage_of_nul :
    ∃ bytes c', encode {
        ssid := some (List.replicate 32 0), band := -0x80000000, channel := 0x7FFFFFFF,
        keyManagement := some (KeySet.singleton 4), key := some (List.replicate 63 0),
        networkId := 7 } = .ok bytes ∧ bytes.length = 210 ∧ decode bytes = .ok c' ∧
      c'.ssid = some (List.replicate 32 0) ∧ c'.key = some (List.replicate 63 0) := by
  let c : Config := {
    ssid := some (List.replicate 32 0), band := -0x80000000, channel := 0x7FFFFFFF,
    keyManagement := some (KeySet.singleton 4), key := some (List.replicate 63 0), networkId := 7 }
  have hcheck : c.check = none := by decide
  obtain ⟨bytes, hbytes⟩ := (storage_of_acceptable hcheck).1.2 ⟨by decide, by decide⟩
  obtain ⟨-, c', hread, hssid, -, -, -, hkey, -, -⟩ :=
    (storage_of_acceptable hcheck).2 bytes hbytes
  have hlength := length_of_encode (k := .wpa2Psk) rfl hbytes
  refine ⟨bytes, c', hbytes, hlength.trans (by decide), hread, hssid, ?_⟩
  rcases hkey with ⟨hopen, -⟩ | ⟨-, hkey⟩
  · cases hopen
  · exact hkey

/-! ## Configurations that were read -/

namespace Parts

variable {f : Parts}

/-- Numbers that were read fit. -/
theorem Reads.fitsInt32 (h : f.Reads c) : FitsInt32 c.band ∧ FitsInt32 c.channel := by
  have hradio := h.radio
  cases hr : f.radio with
  | none =>
    rw [hr] at hradio
    obtain ⟨hband, hchannel⟩ := Prod.mk.inj hradio
    rw [hband, hchannel]
    decide
  | some r =>
    rw [hr, Option.getD_some] at hradio
    have hfits := f.fits_radio r hr
    rwa [← hradio] at hfits

/-- A name that was read is written in the size that its payload announces. -/
theorem Reads.length_ssid (h : f.Reads c) :
    (StoredString.encode (c.ssid.getD [])).length = rewrittenSize f.name := by
  obtain ⟨t, ht, hssid⟩ := h.ssid
  rw [hssid, Option.getD_some, StoredString.length_encode_of_decode ht]

/-- So is a key. -/
theorem Reads.length_key (h : f.Reads c) {payload : Bytes} (hp : payload ∈ f.key) :
    (StoredString.encode (c.key.getD [])).length = rewrittenSize payload := by
  have hread := h.key
  rw [Option.mem_def.1 hp] at hread
  obtain ⟨t, ht, hkey⟩ := hread
  rw [hkey, Option.getD_some, StoredString.length_encode_of_decode ht]

/-- What was read can be written if no payload grows beyond its length. -/
theorem Reads.exists_encode_iff (h : f.Reads c) :
    (∃ bytes, c.encode = .ok bytes) ↔ ∀ payload ∈ f.payloads, rewrittenSize payload ≤ 0xFFFF := by
  have hauth : c.auth = .ok f.scheme := auth_eq_ok.2 h.keyManagement
  rw [exists_encode, forall_mem_payloads]
  constructor
  · rintro ⟨k, hk, hname, -, -, hkey⟩
    obtain rfl : f.scheme = k := Except.ok.inj (hauth.symm.trans hk)
    refine ⟨h.length_ssid ▸ hname, fun payload hp => h.length_key hp ▸ hkey fun hopen => ?_⟩
    rw [f.key_eq_none.2 hopen] at hp
    cases hp
  · rintro ⟨hname, hkey⟩
    refine ⟨f.scheme, hauth, h.length_ssid ▸ hname, h.fitsInt32.1, h.fitsInt32.2, fun hne => ?_⟩
    obtain ⟨payload, hp⟩ := Option.ne_none_iff_exists'.1 (mt f.key_eq_none.1 hne)
    exact h.length_key hp ▸ hkey payload hp

end Parts

/-- **Which files can be saved again.** A file that is read has its parts in one way. The
configuration is refused exactly if a payload, in the size it takes when it is written
again, does not fit its length, and nothing but that is why; in every other case it is
written, and read back the same. -/
theorem resaving (h : decode bytes = .ok c) :
    (∃! f : Parts, f.bytes = bytes) ∧ ∀ f : Parts, f.bytes = bytes →
      ((∃ field size, c.encode = .error (.tooLong field size)) ↔
        ∃ payload ∈ f.payloads, 0xFFFF < rewrittenSize payload) ∧
      ((∀ payload ∈ f.payloads, rewrittenSize payload ≤ 0xFFFF) →
        ∃ written, c.encode = .ok written ∧ decode written = .ok c) := by
  obtain ⟨f, hf, -⟩ := Parts.layout_iff.1 (decode_eq_ok.1 h)
  refine ⟨⟨f, hf, fun g hg => Parts.bytes_injective (hg.trans hf.symm)⟩, ?_⟩
  rintro f rfl
  have hreads := Parts.decode_bytes.1 h
  have hwrites := hreads.exists_encode_iff
  refine ⟨⟨?_, ?_⟩, fun hfits => ?_⟩
  · rintro ⟨field, size, hrefused⟩
    by_contra hnone
    push Not at hnone
    obtain ⟨written, hwritten⟩ := hwrites.2 hnone
    rw [hwritten] at hrefused
    cases hrefused
  · rintro ⟨payload, hp, hlong⟩
    cases hencode : c.encode with
    | ok written => exact absurd (hwrites.1 ⟨written, hencode⟩ payload hp) (by omega)
    | error e =>
      obtain ⟨field, size, rfl⟩ := tooLong_of_encode (auth_eq_ok.2 hreads.keyManagement)
        hreads.fitsInt32.1 hreads.fitsInt32.2 hencode
      exact ⟨field, size, rfl⟩
  · obtain ⟨written, hwritten⟩ := hwrites.2 hfits
    have hread := decode_of_encode hwritten
    rw [canon_of_decode h] at hread
    exact ⟨written, hwritten, hread⟩

/-- A file of version 1 of an open network whose name is nothing but `NUL`. -/
def Parts.ofNul (n : Nat) (h : n ≤ 0xFFFF) : Parts where
  name := List.replicate n 0
  radio := none
  scheme := .none
  key := none
  rest := []
  length_name := by rwa [List.length_replicate]
  fits_radio := nofun
  key_eq_none := iff_of_true rfl rfl
  length_key := nofun

/-- The name of such a file is read as so many `NUL`. -/
theorem Parts.reads_ofNul (n : Nat) (h : n ≤ 0xFFFF) :
    (Parts.ofNul n h).Reads { ssid := some (List.replicate n 0) } :=
  ⟨⟨_, StoredString.decode_replicate_zero n, rfl⟩, rfl, rfl, rfl, rfl⟩

/-- A name of 32767 bytes `00` can be saved again, and one of 32768 cannot. -/
theorem resaving_of_nul :
    (∃ bytes c, decode bytes = .ok c ∧ c.ssid = some (List.replicate 32767 0) ∧
      ∃ written, c.encode = .ok written ∧ decode written = .ok c) ∧
    ∃ bytes c, decode bytes = .ok c ∧ c.ssid = some (List.replicate 32768 0) ∧
      ∃ field size, c.encode = .error (.tooLong field size) := by
  have hread (n : Nat) (h : n ≤ 0xFFFF) := Parts.decode_bytes.2 (Parts.reads_ofNul n h)
  constructor
  · refine ⟨_, _, hread 32767 (by decide), rfl, ((resaving (hread 32767 (by decide))).2 _ rfl).2 ?_⟩
    refine Parts.forall_mem_payloads.2 ⟨?_, nofun⟩
    rw [Parts.ofNul, StoredString.rewrittenSize_replicate_zero]
    decide
  · refine ⟨_, _, hread 32768 (by decide), rfl,
      ((resaving (hread 32768 (by decide))).2 _ rfl).1.2 ?_⟩
    refine ⟨_, List.mem_cons_self, ?_⟩
    rw [Parts.ofNul, StoredString.rewrittenSize_replicate_zero]
    decide

end Config
end Hotspot
