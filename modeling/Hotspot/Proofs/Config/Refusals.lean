/-
# Why a configuration is refused

Five things may keep a configuration from having bytes, and they are looked at in the order in
which the fields are written:

| obstacle | met by | reported |
| --- | --- | --- |
| `scheme` | a set that is not that of one scheme | why it is none |
| `name` | a name of over 65535 bytes on file | how many they are |
| `band`, `channel` | a number that does not fit 32 bits | the number |
| `key` | a key of over 65535 bytes, unless the network is open | how many they are |

Each is about its own field, whatever comes of the others, so a configuration may meet several.
It is refused for the first one (`refused_for_first`). A number is part of what is reported of
it, which takes that it can be written in decimal.
-/

import Hotspot.Proofs.Config.Replacing
import Hotspot.Proofs.Config.Storable

namespace Hotspot
namespace Config

variable {c : Config} {k : KeyManagement} {e : EncodeError} {field : Field} {t : Option Text}
  {i : Int}

/-- What may keep a configuration from having bytes. -/
inductive Obstacle
  | scheme
  | name
  | band
  | channel
  | key
  deriving DecidableEq, Repr

/-- The obstacles in the order in which they are looked at. -/
def Obstacle.order : List Obstacle := [.scheme, .name, .band, .channel, .key]

/-- The bytes of a text on file, an absent one being empty: those of UTF-8, three for a
surrogate, and one more for each `NUL` and two more for each supplementary code point. -/
def sizeOnFile (t : Option Text) : Nat :=
  (Utf8.encode (t.getD [])).length + (t.getD []).count 0 +
    2 * (t.getD []).countP fun x => 0xFFFF < x.val

/-- A configuration meets an obstacle. -/
def Meets (c : Config) : Obstacle → Prop
  | .scheme => ∀ code ∈ ([0, 1, 2, 3, 4] : List Int),
    c.keyManagement ≠ some (KeySet.singleton code)
  | .name => 0xFFFF < sizeOnFile c.ssid
  | .band => c.band < -0x80000000 ∨ 0x7FFFFFFF < c.band
  | .channel => c.channel < -0x80000000 ∨ 0x7FFFFFFF < c.channel
  | .key => c.keyManagement ≠ some (KeySet.singleton 0) ∧ 0xFFFF < sizeOnFile c.key

instance (c : Config) : DecidablePred c.Meets
  | .scheme => inferInstanceAs (Decidable (∀ code ∈ ([0, 1, 2, 3, 4] : List Int),
    c.keyManagement ≠ some (KeySet.singleton code)))
  | .name => inferInstanceAs (Decidable (0xFFFF < sizeOnFile c.ssid))
  | .band | .channel => inferInstanceAs (Decidable (_ ∨ _))
  | .key => inferInstanceAs (Decidable (_ ∧ _))

/-- The first obstacle that a configuration meets. -/
def firstObstacle (c : Config) : Option Obstacle := Obstacle.order.find? fun o => c.Meets o

/-- What is reported of an obstacle. -/
def Reports (c : Config) : Obstacle → EncodeError → Prop
  | .scheme, e => ∃ failure, c.auth = .error failure ∧ e = .noScheme failure
  | .name, e => e = .tooLong .ssid (sizeOnFile c.ssid)
  | .band, e => e = .outOfRange .band c.band
  | .channel, e => e = .outOfRange .channel c.channel
  | .key, e => e = .tooLong .key (sizeOnFile c.key)

/-! ## The fields one by one -/

/-- A text takes as many bytes on file as its size says, by the size of each code point. -/
theorem length_encode_eq_sizeOnFile (t : Option Text) :
    (StoredString.encode (t.getD [])).length = sizeOnFile t := by
  rw [StoredString.length_encode, sizeOnFile, Utf8.length_encode]
  rfl

/-- A set meets no obstacle if it comes to a scheme. -/
theorem meets_scheme : c.Meets .scheme ↔ ∀ k, c.auth ≠ .ok k := by
  have hcodes : ∀ code : Int, code ∈ ([0, 1, 2, 3, 4] : List Int) ↔
      ∃ k : KeyManagement, k.code = code := by
    intro code
    rw [KeyManagement.exists_code]
    simp only [List.mem_cons, List.not_mem_nil, or_false]
    omega
  constructor
  · exact fun h k hk => h k.code ((hcodes _).2 ⟨k, rfl⟩) (auth_eq_ok.1 hk)
  · intro h code hcode
    obtain ⟨k, rfl⟩ := (hcodes code).1 hcode
    exact fun hset => h k (auth_eq_ok.2 hset)

/-- A number has 32 bits unless it is below the least one or above the greatest. -/
theorem fitsInt32_iff : FitsInt32 i ↔ ¬(i < -0x80000000 ∨ 0x7FFFFFFF < i) := by
  rw [FitsInt32]
  omega

/-- A number that has more is refused with its value, if that can be shown. -/
theorem writeInt_of_not_fitsInt32 (hwritable : writable i = true)
    (h : i < -0x80000000 ∨ 0x7FFFFFFF < i) : writeInt field i = .error (.outOfRange field i) := by
  rw [writeInt, if_neg (fun hfits => fitsInt32_iff.1 hfits h), if_pos hwritable]

/-- All others are written. -/
theorem exists_writeInt (h : ¬(i < -0x80000000 ∨ 0x7FFFFFFF < i)) :
    ∃ bytes, writeInt field i = .ok bytes :=
  ⟨_, writeInt_eq_ok.2 ⟨fitsInt32_iff.2 h, rfl⟩⟩

/-- A text that takes too many bytes is refused with their number. -/
theorem writeString_of_long (h : 0xFFFF < sizeOnFile t) :
    writeString field t = .error (.tooLong field (sizeOnFile t)) := by
  rw [writeString, length_encode_eq_sizeOnFile]
  exact if_neg (Nat.not_le.2 h)

/-- All others are written. -/
theorem exists_writeString (h : ¬0xFFFF < sizeOnFile t) :
    ∃ bytes, writeString field t = .ok bytes :=
  ⟨_, writeString_eq_ok.2 ⟨length_encode_eq_sizeOnFile t ▸ Nat.not_lt.1 h, rfl⟩⟩

/-- The key of a network that is not open is written as a text. -/
theorem writeKey_of_ne (h : k ≠ .none) : writeKey k t = writeString .key t := by
  cases k with
  | none => exact absurd rfl h
  | _ => rfl

/-- A network is open if its scheme has the code 0. -/
theorem eq_singleton_zero_iff (hk : c.auth = .ok k) :
    c.keyManagement = some (KeySet.singleton 0) ↔ k = .none := by
  have hopen : c.auth = .ok .none ↔ c.keyManagement = some (KeySet.singleton 0) := auth_eq_ok
  rw [← hopen, hk, Except.ok.injEq]

/-! ## Part by part -/

/-- A part of the writing fails exactly for one obstacle, and reports it. -/
structure FailsFor {α : Type} (x : Except EncodeError α) (c : Config) (o : Obstacle) : Prop where
  reports : c.Meets o → ∃ e, x = .error e ∧ c.Reports o e
  passes : ¬c.Meets o → ∃ a, x = .ok a

/-- The first part fails for want of a scheme. -/
theorem failsFor_scheme : FailsFor (c.auth.mapError .noScheme) c .scheme := by
  cases hauth : c.auth with
  | ok k => exact ⟨fun h => absurd hauth (meets_scheme.1 h k), fun _ => ⟨k, rfl⟩⟩
  | error failure =>
    refine ⟨fun _ => ⟨_, rfl, failure, hauth, rfl⟩, fun h => absurd (meets_scheme.2 ?_) h⟩
    rw [hauth]
    exact fun _ => nofun

/-- The name fails for its size. -/
theorem failsFor_name : FailsFor (writeString .ssid c.ssid) c .name :=
  ⟨fun h => ⟨_, writeString_of_long h, rfl⟩, exists_writeString⟩

/-- The band fails for its value. -/
theorem failsFor_band (hwritable : writable c.band = true) :
    FailsFor (writeInt .band c.band) c .band :=
  ⟨fun h => ⟨_, writeInt_of_not_fitsInt32 hwritable h, rfl⟩, exists_writeInt⟩

/-- So does the channel. -/
theorem failsFor_channel (hwritable : writable c.channel = true) :
    FailsFor (writeInt .channel c.channel) c .channel :=
  ⟨fun h => ⟨_, writeInt_of_not_fitsInt32 hwritable h, rfl⟩, exists_writeInt⟩

/-- The key fails for its size, if there is to be one. -/
theorem failsFor_key (hk : c.auth = .ok k) : FailsFor (writeKey k c.key) c .key := by
  have hopen := eq_singleton_zero_iff hk
  by_cases hnone : k = .none
  · exact ⟨fun h => absurd (hopen.2 hnone) h.1, fun _ => ⟨[], by rw [hnone]; rfl⟩⟩
  · rw [writeKey_of_ne hnone]
    exact ⟨fun h => ⟨_, writeString_of_long h.2, rfl⟩,
      fun h => exists_writeString fun hlong => h ⟨mt hopen.1 hnone, hlong⟩⟩

/-- Of two parts one after the other, the obstacle of the first one comes first. -/
theorem FailsFor.bind {α : Type} {x : Except EncodeError α} {f : α → Except EncodeError Bytes}
    {o first : Obstacle} {later : Option Obstacle} (hx : FailsFor x c o)
    (h : (if c.Meets o then some o else later) = some first)
    (hf : ∀ a, x = .ok a → later = some first → ∃ e, f a = .error e ∧ c.Reports first e) :
    ∃ e, x >>= f = .error e ∧ c.Reports first e := by
  split at h
  · next hmeets =>
    obtain rfl := Option.some.inj h
    obtain ⟨e, hx, hreports⟩ := hx.reports hmeets
    exact ⟨e, by rw [hx]; rfl, hreports⟩
  · next hmeets =>
    obtain ⟨a, ha⟩ := hx.passes hmeets
    rw [ha]
    exact hf a ha h

/-! ## All parts together -/

/-- The first obstacle as a chain of questions, in the order in which the parts are written. -/
theorem firstObstacle_eq (c : Config) : c.firstObstacle =
    if c.Meets .scheme then some .scheme else if c.Meets .name then some .name
    else if c.Meets .band then some .band else if c.Meets .channel then some .channel
    else if c.Meets .key then some .key else none := by
  simp only [firstObstacle, Obstacle.order, List.find?_cons, List.find?_nil]
  split_ifs <;> simp_all

/-- **What is reported is the first obstacle**, if its numbers can be written in decimal. -/
theorem exists_reports (hband : writable c.band = true) (hchannel : writable c.channel = true)
    {o : Obstacle} (h : c.firstObstacle = some o) : ∃ e, c.encode = .error e ∧ c.Reports o e := by
  rw [firstObstacle_eq] at h
  rw [encode]
  refine failsFor_scheme.bind h fun k hk h => ?_
  refine failsFor_name.bind h fun name _ h => ?_
  refine (failsFor_band hband).bind h fun band _ h => ?_
  refine (failsFor_channel hchannel).bind h fun channel _ h => ?_
  refine (failsFor_key (mapError_eq_ok.1 hk)).bind h fun key _ h => ?_
  cases h

/-- A configuration has bytes exactly if it meets no obstacle. -/
theorem exists_encode_iff_not_meets :
    (∃ bytes, c.encode = .ok bytes) ↔ ∀ o, ¬c.Meets o := by
  have hsize (t : Option Text) : (StoredString.encode (t.getD [])).length ≤ 0xFFFF ↔
      ¬0xFFFF < sizeOnFile t := by
    rw [length_encode_eq_sizeOnFile, Nat.not_lt]
  simp only [exists_encode, hsize, fitsInt32_iff]
  constructor
  · rintro ⟨k, hk, hname, hband, hchannel, hkey⟩ o
    cases o with
    | scheme => exact fun h => meets_scheme.1 h k hk
    | name => exact hname
    | band => exact hband
    | channel => exact hchannel
    | key => exact fun h => hkey (mt (eq_singleton_zero_iff hk).2 h.1) h.2
  · intro h
    obtain ⟨k, hk⟩ := failsFor_scheme.passes (h .scheme)
    replace hk := mapError_eq_ok.1 hk
    exact ⟨k, hk, h .name, h .band, h .channel,
      fun hne hlong => h .key ⟨mt (eq_singleton_zero_iff hk).1 hne, hlong⟩⟩

/-- A number of at most 4300 digits can be written. -/
theorem writable_of_length_le (h : (Text.ofNat i.natAbs).length ≤ 4300) : writable i = true := by
  have hlimit : (4300 : Nat) = digitLimit := rfl
  have hpos : 0 < digitLimit := by decide
  rw [hlimit] at h
  rw [writable, decide_eq_true_iff]
  generalize digitLimit = n at h hpos ⊢
  exact (Text.length_ofNat_le hpos).1 h

/-- **A configuration is refused for its first obstacle**, and for nothing else. Let its band
and its channel have at most 4300 digits. It has bytes exactly if it meets no obstacle, and
otherwise the first one that it meets is reported, in the order of the fields. The bytes of its
texts are those of modified UTF-8. -/
theorem refused_for_first (hband : (Text.ofNat c.band.natAbs).length ≤ 4300)
    (hchannel : (Text.ofNat c.channel.natAbs).length ≤ 4300) :
    (∀ t : Text, (StoredString.encode t).length = sizeOnFile t) ∧
    ((∃ bytes, c.encode = .ok bytes) ↔ ∀ o, ¬c.Meets o) ∧
    ((∃ e, c.encode = .error e) ↔ ∃ o, c.Meets o) ∧
    ∀ o, c.firstObstacle = some o → ∃ e, c.encode = .error e ∧ c.Reports o e := by
  have hok := @exists_encode_iff_not_meets c
  refine ⟨fun t => length_encode_eq_sizeOnFile (some t), hok, ?_,
    fun o => exists_reports (writable_of_length_le hband) (writable_of_length_le hchannel)⟩
  rw [← not_iff_not, not_exists, not_exists, ← hok]
  cases c.encode with
  | ok bytes => exact iff_of_true nofun ⟨bytes, rfl⟩
  | error e => exact iff_of_false (fun h => h e rfl) nofun

/-- A configuration with a key of 65536 bytes on file. -/
def withLongKey (band code : Int) : Config where
  ssid := some [97]
  band := band
  keyManagement := some (KeySet.singleton code)
  key := some (List.replicate 32768 0)

/-- A band that does not fit stands before a key that does not, which an open network does not
write. -/
theorem refused_for_first_of_band :
    (∀ i : Int, i.natAbs ≤ 0x80000001 → (Text.ofNat i.natAbs).length ≤ 4300) ∧
    (withLongKey (-0x80000001) 4).encode = .error (.outOfRange .band (-0x80000001)) ∧
    ∃ bytes, (withLongKey (-0x80000000) 0).encode = .ok bytes := by
  have hdigits : ∀ i : Int, i.natAbs ≤ 0x80000001 → (Text.ofNat i.natAbs).length ≤ 4300 :=
    fun i h => ((Text.length_ofNat_le (by decide)).2
      (Nat.lt_of_le_of_lt h (by decide : 0x80000001 < 10 ^ 10))).trans (by decide)
  have hrefused (band code : Int) (h : band.natAbs ≤ 0x80000001) :=
    @refused_for_first (withLongKey band code) (hdigits _ h) (hdigits 0 (by decide))
  refine ⟨hdigits, ?_, ?_⟩
  · obtain ⟨e, hencode, rfl⟩ := (hrefused (-0x80000001) 4 (by decide)).2.2.2 .band (by decide)
    exact hencode
  · refine (hrefused (-0x80000000) 0 (by decide)).2.1.2 fun o => ?_
    cases o with
    | key => exact fun h => h.1 rfl
    | _ => decide

end Config
end Hotspot
