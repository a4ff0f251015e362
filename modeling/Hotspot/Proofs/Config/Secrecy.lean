/-
# What is told of a key

Little of a key leaves a configuration: whether there is one, how many bytes it
takes as text and on file, and whether a surrogate is in it. Two configurations
that differ in a key alone, and in none of this (`Alike`), break the same rules,
are refused by the codec for the same reason, and look the same when they are shown
without the key.
-/

import Hotspot.Config.Description
import Hotspot.Config.Validation
import Hotspot.Proofs.FileSystem.Shape

namespace Hotspot
namespace Config

/-- Two keys of which the same is told: the same key or none, or two that are not empty
and take the same number of bytes, as text and on file, with surrogates or without. -/
inductive KeysAlike : Option Text → Option Text → Prop
  | same (key : Option Text) : KeysAlike key key
  | other {key key' : Text} (hne : key ≠ []) (hne' : key' ≠ [])
    (size : Utf8.size key = Utf8.size key')
    (stored : (StoredString.encode key).length = (StoredString.encode key').length)
    (surrogates : Text.hasSurrogate key = Text.hasSurrogate key') :
    KeysAlike (some key) (some key')

/-- Two configurations that differ at most in the key, and of whose keys the same is
told. -/
structure Alike (c c' : Config) : Prop where
  ssid : c.ssid = c'.ssid
  band : c.band = c'.band
  channel : c.channel = c'.channel
  keyManagement : c.keyManagement = c'.keyManagement
  networkId : c.networkId = c'.networkId
  key : KeysAlike c.key c'.key

/-- A key is checked for its size and its surrogates, and for nothing else. -/
theorem checkKey_congr {key key' : Text} (size : Utf8.size key = Utf8.size key')
    (surrogates : Text.hasSurrogate key = Text.hasSurrogate key') :
    checkKey key = checkKey key' := by
  rw [checkKey, checkKey, size, surrogates]

/-- A text is refused with its size on file, and for nothing else. -/
theorem sameRefusal_writeString (field : Field) {t t' : Text}
    (h : (StoredString.encode t).length = (StoredString.encode t').length) :
    SameRefusal (writeString field (some t)) (writeString field (some t')) := by
  simp only [writeString, Option.getD_some, h]
  split
  · trivial
  · rfl

namespace SameRefusal

variable {α β : Type}

/-- What is refused is refused in the same way again. -/
theorem refl (x : Except EncodeError α) : SameRefusal x x := by
  cases x <;> trivial

/-- Two computations that go on alike for the same value. -/
theorem bind_same (x : Except EncodeError α) {f f' : α → Except EncodeError β}
    (hf : ∀ a, SameRefusal (f a) (f' a)) : SameRefusal (x >>= f) (x >>= f') := by
  cases x with
  | error e => exact rfl
  | ok a => exact hf a

/-- Two computations that go on alike for any values. -/
theorem bind {x x' : Except EncodeError α} (h : SameRefusal x x') {f f' : α → Except EncodeError β}
    (hf : ∀ a a', SameRefusal (f a) (f' a')) : SameRefusal (x >>= f) (x' >>= f') := by
  match x, x' with
  | .ok a, .ok a' => exact hf a a'
  | .error _, .error _ => exact h

end SameRefusal

namespace Alike

variable {c c' : Config}

/-- A configuration is like itself. -/
theorem refl (c : Config) : Alike c c := ⟨rfl, rfl, rfl, rfl, rfl, .same _⟩

/-- The scheme has nothing to do with the key. -/
theorem auth (h : Alike c c') : c.auth = c'.auth := congrArg deriveAuth h.keyManagement

/-! ## The rules -/

/-- The same is found wrong with the security of both. -/
theorem checkSecurity (h : Alike c c') : c.checkSecurity = c'.checkSecurity := by
  rw [Config.checkSecurity, Config.checkSecurity, h.keyManagement, h.auth]
  have hkey := h.key
  generalize c.key = key, c'.key = key' at hkey
  cases hkey with
  | same => rfl
  | other hne hne' size stored surrogates =>
    -- beside its measures the rules ask whether a key is empty, which neither is
    obtain ⟨d, key, rfl⟩ := List.exists_cons_of_ne_nil hne
    obtain ⟨d', key', rfl⟩ := List.exists_cons_of_ne_nil hne'
    simp only [checkKey_congr size surrogates]

/-- The same rule is broken first. -/
theorem check (h : Alike c c') : c.check = c'.check := by
  rw [Config.check, Config.check, h.ssid, h.checkSecurity]

/-- So the same is collected of both. -/
theorem violations (h : Alike c c') : c.violations = c'.violations := by
  rw [Config.violations, Config.violations, h.ssid, h.checkSecurity]

/-! ## What is shown -/

/-- With the key hidden the same is shown of it: that there is one, or that there is none. -/
theorem shownKey (h : Alike c c') : c.shownKey false = c'.shownKey false := by
  have hkey := h.key
  rw [Config.shownKey, Config.shownKey]
  generalize c.key = key, c'.key = key' at hkey
  cases hkey with
  | same => rfl
  | other hne hne' =>
    obtain ⟨d, key, rfl⟩ := List.exists_cons_of_ne_nil hne
    obtain ⟨d', key', rfl⟩ := List.exists_cons_of_ne_nil hne'
    rfl

/-- So both are shown in the same way. -/
theorem redacted (h : Alike c c') : c.redacted = c'.redacted := by
  rw [Config.redacted, Config.redacted, describe, describe, authName, authName, security?,
    security?, h.auth, h.ssid, h.band, h.channel, h.networkId, h.shownKey]

/-! ## What is written -/

/-- If one key is refused so is the other, with the same message. -/
theorem writeKey (h : Alike c c') (k : KeyManagement) :
    SameRefusal (Config.writeKey k c.key) (Config.writeKey k c'.key) := by
  have hkey := h.key
  generalize c.key = key, c'.key = key' at hkey
  cases hkey with
  | same => exact .refl _
  | other hne hne' size stored surrogates =>
    cases k with
    | none => trivial
    | _ => exact sameRefusal_writeString .key stored

/-- Both have bytes, or both are refused for the same reason. -/
theorem encode (h : Alike c c') : SameRefusal c.encode c'.encode := by
  rw [Config.encode, Config.encode, h.auth, h.ssid, h.band, h.channel]
  exact .bind_same _ fun k => .bind_same _ fun name => .bind_same _ fun band =>
    .bind_same _ fun channel => .bind (h.writeKey k) fun _ _ => trivial

end Alike
end Config
end Hotspot
