/-
# The two versions of a file

A file of version 1 has no band and no channel, and both are read as zero. So it
means what the file of version 2 does that has two zeros in their place, whatever
else is in either:

| version | name | band, channel | what follows |
| ---: | --- | --- | --- |
| 1 | `payload` | | `rest` |
| 2 | `payload` | `0`, `0` | `rest` |

Both are read as one configuration, or neither is, and then both fail in the same
way (`kind_decode_upgrade`).
-/

import Hotspot.Proofs.Config.Canonical

namespace Hotspot
namespace Config

variable {c : Config} {payload rest : Bytes}

/-- Bytes that start with 1 or 2 have a version. -/
theorem hasVersion_int32_append {version : Int} (h : version = 1 ∨ version = 2) (rest : Bytes) :
    HasVersion (int32 version ++ rest) := by
  have hsigned : signed (int32 version) = version := by
    rcases h with rfl | rfl <;> exact signed_int32 (by decide)
  refine ⟨by rw [List.length_append, length_int32]; omega, ?_⟩
  rw [List.take_left' (length_int32 version), hsigned]
  exact h

/-- Such bytes fail in reading, if they do. -/
theorem kind_of_hasVersion {bytes : Bytes} (h : HasVersion bytes) {e : DecodeError}
    (he : decode bytes = .error e) : e.kind = .ioFailure :=
  kind_decodeBody ((decode_of_hasVersion h).symm.trans he)

namespace Parts

variable {f g : Parts}

/-- The file with other numbers for band and channel, or without. -/
def withRadio (f : Parts) (radio : Option (Int × Int))
    (fits : ∀ r ∈ radio, FitsInt32 r.1 ∧ FitsInt32 r.2) : Parts :=
  { f with radio, fits_radio := fits }

/-- The bytes of a file behind band and channel. -/
def tail (f : Parts) : Bytes := int32 f.scheme.code ++ (keyBytes f.key ++ f.rest)

/-- A file starts with its version and its name. -/
theorem bytes_eq_iff {version : Int} (hversion : FitsInt32 version)
    (hpayload : payload.length ≤ 0xFFFF) :
    f.bytes = int32 version ++ (stringField payload ++ rest) ↔
      f.version = version ∧ f.name = payload ∧ radioBytes f.radio ++ f.tail = rest := by
  constructor
  · intro h
    obtain ⟨hv, h⟩ := int32_append_inj f.fitsInt32_version hversion h
    obtain ⟨hname, h⟩ := stringField_append_inj f.length_name hpayload h
    exact ⟨hv, hname, h⟩
  · rintro ⟨rfl, rfl, rfl⟩
    rfl

/-- Version 1 is the one without band and channel. -/
theorem version_eq_one : f.version = 1 ↔ f.radio = none := by
  rw [version]
  cases f.radio <;> simp

/-- Two files with the same numbers for band and channel, zeros where there are none, are read
as the same. -/
theorem reads_withRadio {radio : Option (Int × Int)}
    {fits : ∀ r ∈ radio, FitsInt32 r.1 ∧ FitsInt32 r.2}
    (h : radio.getD (0, 0) = f.radio.getD (0, 0)) :
    (f.withRadio radio fits).Reads c ↔ f.Reads c :=
  ⟨fun hr => ⟨hr.ssid, hr.radio.trans h, hr.keyManagement, hr.key, hr.networkId⟩,
    fun hr => ⟨hr.ssid, hr.radio.trans h.symm, hr.keyManagement, hr.key, hr.networkId⟩⟩

/-- Two zeros in place of nothing make no difference to what is read. -/
theorem layout_upgrade (hpayload : payload.length ≤ 0xFFFF) :
    Layout (int32 1 ++ (stringField payload ++ rest)) c ↔
      Layout (int32 2 ++ (stringField payload ++ (int32 0 ++ (int32 0 ++ rest)))) c := by
  have hone : FitsInt32 1 := by decide
  have htwo : FitsInt32 2 := by decide
  have hzero : FitsInt32 0 := by decide
  have hzeros : ∀ r ∈ some ((0 : Int), (0 : Int)), FitsInt32 r.1 ∧ FitsInt32 r.2 := by
    rintro _ ⟨⟩
    exact ⟨hzero, hzero⟩
  rw [layout_iff, layout_iff]
  constructor
  · rintro ⟨f, hf, hreads⟩
    obtain ⟨hversion, hname, hrest⟩ := (bytes_eq_iff hone hpayload).1 hf
    have hradio := version_eq_one.1 hversion
    rw [hradio] at hrest
    refine ⟨f.withRadio (some (0, 0)) hzeros, (bytes_eq_iff htwo hpayload).2 ⟨rfl, hname, ?_⟩,
      (reads_withRadio (by rw [hradio]; rfl)).2 hreads⟩
    rw [← hrest]
    exact List.append_assoc ..
  · rintro ⟨g, hg, hreads⟩
    obtain ⟨hversion, hname, hrest⟩ := (bytes_eq_iff htwo hpayload).1 hg
    obtain ⟨⟨band, channel⟩, hradio⟩ := Option.isSome_iff_exists.1 (version_eq_two.1 hversion)
    have hfits : FitsInt32 band ∧ FitsInt32 channel := g.fits_radio _ hradio
    rw [hradio, radioBytes, List.append_assoc] at hrest
    obtain ⟨hband, hbehind⟩ := int32_append_inj hfits.1 hzero hrest
    obtain ⟨hchannel, htail⟩ := int32_append_inj hfits.2 hzero hbehind
    rw [hband, hchannel] at hradio
    have hnone : ∀ r ∈ (none : Option (Int × Int)), FitsInt32 r.1 ∧ FitsInt32 r.2 :=
      fun r hr => absurd hr (Option.not_mem_none r)
    exact ⟨g.withRadio none hnone, (bytes_eq_iff hone hpayload).2 ⟨rfl, hname, htail⟩,
      (reads_withRadio (by rw [hradio]; rfl)).2 hreads⟩

end Parts

/-- **A file of version 1 is read as one of version 2 with two zeros.** Both give the same
configuration, or both fail in the same way. -/
theorem kind_decode_upgrade (hpayload : payload.length ≤ 0xFFFF) (rest : Bytes) :
    (decode (int32 1 ++ (stringField payload ++ rest))).mapError DecodeError.kind =
      (decode (int32 2 ++ (stringField payload ++ (int32 0 ++ (int32 0 ++ rest))))).mapError
        DecodeError.kind := by
  have hlayout (c : Config) := @Parts.layout_upgrade c _ rest hpayload
  have hone := hasVersion_int32_append (.inl rfl) (stringField payload ++ rest)
  have htwo := hasVersion_int32_append (.inr rfl)
    (stringField payload ++ (int32 0 ++ (int32 0 ++ rest)))
  generalize int32 1 ++ (stringField payload ++ rest) = first at hlayout hone ⊢
  generalize int32 2 ++ (stringField payload ++ (int32 0 ++ (int32 0 ++ rest))) = second
    at hlayout htwo ⊢
  simp only [← decode_eq_ok] at hlayout
  cases hfirst : decode first with
  | ok c => rw [(hlayout c).1 hfirst]
  | error e =>
    cases hsecond : decode second with
    | ok c => rw [(hlayout c).2 hsecond] at hfirst; cases hfirst
    | error e' =>
      rw [Except.mapError, Except.mapError, kind_of_hasVersion hone hfirst,
        kind_of_hasVersion htwo hsecond]

end Config
end Hotspot
