/-
# Configurations that are acceptable

A default is acceptable, whatever is drawn for it, as long as its name template
leaves room for an underscore and four digits. And whether a configuration is
acceptable can be told before it is written: what is read back breaks no rule
either.
-/

import Hotspot.Config.Validation
import Hotspot.Proofs.Config.Drawing
import Hotspot.Proofs.Config.RoundTrip
import Hotspot.Proofs.Text.Ascii

namespace Hotspot

/-! ## Keys -/

namespace Uuid

/-- A UUID is written with 32 digits. -/
theorem length_ofHex (u : Uuid) : (Text.ofHex 32 u.val).length = 32 :=
  Text.length_ofHex (by decide) (by have := u.isLt; omega)

/-- The key is the first digits of the UUID. -/
theorem key_eq (u : Uuid) : u.key = (Text.ofHex 32 u.val).take 12 := by
  have hlen := length_ofHex u
  rw [key, text]
  generalize Text.ofHex 32 u.val = digits at hlen ⊢
  have hfirst : (digits.take 8 ++ [(0x2D : CodePoint)]).length = 9 := by
    rw [List.length_append, List.length_take, hlen]
    rfl
  have hsecond : ((digits.drop 8).take 4).length = 4 := by
    rw [List.length_take, List.length_drop, hlen]
    rfl
  have htext : Text.joinWith "-" [digits.take 8, (digits.drop 8).take 4, (digits.drop 12).take 4,
      (digits.drop 16).take 4, digits.drop 20] =
      (digits.take 8 ++ [0x2D]) ++ ((digits.drop 8).take 4 ++ ([0x2D] ++ ((digits.drop 12).take 4 ++
        ([0x2D] ++ ((digits.drop 16).take 4 ++ ([0x2D] ++ digits.drop 20)))))) := by
    have hhyphen : Text.ofString "-" = [0x2D] := rfl
    simp [Text.joinWith, List.intercalate, hhyphen]
  rw [htext, List.drop_left' hfirst, List.take_left' hsecond, List.append_assoc,
    List.take_left' (by rw [List.length_take, hlen]; rfl), ← List.take_add]

/-- A key that is drawn has twelve characters, which is enough. -/
theorem length_key (u : Uuid) : u.key.length = 12 := by
  rw [key_eq, List.length_take, length_ofHex]
  rfl

/-- They are digits, so they are ASCII. -/
theorem isAscii_key (u : Uuid) : Text.IsAscii u.key := by
  rw [key_eq]
  exact (Text.isAscii_ofHex 32 u.val).subset (List.take_subset 12 _)

end Uuid

namespace Config

variable {c : Config} {t : Text}

/-! ## The rules, read backwards -/

/-- A size in range and no surrogate. -/
theorem checkText_eq_none {α : Type} {tooLong malformed : α} {low high : Nat} :
    (if Utf8.size t < low ∨ high < Utf8.size t then some tooLong
      else if t.hasSurrogate then some malformed else none) = none ↔
      low ≤ Utf8.size t ∧ Utf8.size t ≤ high ∧ t.hasSurrogate = false := by
  split
  · next hsize =>
    refine ⟨nofun, fun h => ?_⟩
    omega
  · next hsize =>
    rw [not_or, Nat.not_lt, Nat.not_lt] at hsize
    cases t.hasSurrogate <;> simp [hsize]

/-- A key is accepted if it takes 8 to 63 bytes and has no surrogate. -/
theorem checkKey_eq_none :
    checkKey t = none ↔ 8 ≤ Utf8.size t ∧ Utf8.size t ≤ 63 ∧ t.hasSurrogate = false :=
  checkText_eq_none

/-- A name is accepted if it is there, takes 1 to 32 bytes and has no surrogate. -/
theorem checkSsid_eq_none {ssid : Option Text} :
    checkSsid ssid = none ↔
      ∃ name, ssid = some name ∧ 1 ≤ Utf8.size name ∧ Utf8.size name ≤ 32 ∧
        name.hasSurrogate = false := by
  rcases ssid with _ | _ | ⟨c, name⟩
  · exact ⟨nofun, nofun⟩
  · refine ⟨nofun, ?_⟩
    rintro ⟨_, hname, hsize, -⟩
    cases hname
    cases hsize
  · have hcheck : checkSsid (some (c :: name)) = none ↔ _ := checkText_eq_none
    rw [hcheck]
    simp [ssidMin, ssidMax]

/-- An acceptable configuration is of an open network without a key, or of a protected
one with a key of a size in range. -/
theorem checkSecurity_eq_none :
    c.checkSecurity = none ↔
      c.auth = .ok .none ∧ (c.key = none ∨ c.key = some []) ∨
      c.auth = .ok .wpa2Psk ∧ ∃ key, c.key = some key ∧ checkKey key = none := by
  cases hset : c.keyManagement with
  | none =>
    have hunset : c.auth = .error .unset := by rw [Config.auth, hset]; rfl
    rw [checkSecurity, hset, hunset]
    simp
  | some s =>
    rw [checkSecurity, hset]
    cases c.auth with
    | error e => cases e <;> simp
    | ok scheme =>
      cases scheme with
      | none => rcases c.key with _ | _ | ⟨_, _⟩ <;> simp
      | wpa2Psk => rcases c.key with _ | _ | ⟨_, _⟩ <;> simp [checkKey_eq_none]
      | wpaPsk | wpaEap | ieee8021x => simp

/-- A configuration is accepted if its name and its security are. -/
theorem check_eq_none : c.check = none ↔ checkSsid c.ssid = none ∧ c.checkSecurity = none := by
  rw [check, Option.or_eq_none_iff]

/-! ## What is read back -/

/-- A name that is accepted is read back as it is, since it has no pair of surrogates to
join. -/
theorem ssid_canon (h : checkSsid c.ssid = none) : c.canon.ssid = c.ssid := by
  obtain ⟨name, hname, -, -, hsurrogate⟩ := checkSsid_eq_none.1 h
  rw [canon, hname, Option.getD_some, Text.pairUp_of_not_hasSurrogate hsurrogate]

/-- So is a key that is accepted. -/
theorem key_canon {key : Text} (hauth : c.auth = .ok .wpa2Psk) (hkey : c.key = some key)
    (h : checkKey key = none) : c.canon.key = some key := by
  have hsurrogate := (checkKey_eq_none.1 h).2.2
  rw [canon, hauth, hkey]
  exact congrArg some (Text.pairUp_of_not_hasSurrogate hsurrogate)

/-- **What is written of an acceptable configuration is acceptable.** -/
theorem check_canon (h : c.check = none) : c.canon.check = none := by
  rw [check_eq_none] at h ⊢
  obtain ⟨hname, hsecurity⟩ := h
  have hauth : c.canon.auth = c.auth := rfl
  refine ⟨by rwa [ssid_canon hname], ?_⟩
  rw [checkSecurity_eq_none] at hsecurity ⊢
  rw [hauth]
  rcases hsecurity with ⟨hopen, -⟩ | ⟨hprotected, key, hkey, hcheck⟩
  · refine .inl ⟨hopen, .inl ?_⟩
    rw [canon, hopen]
  · exact .inr ⟨hprotected, key, key_canon hprotected hkey hcheck, hcheck⟩

/-- An acceptable configuration is read back as it is, if it has no place in a list of
networks, and no key unless it needs one. -/
theorem canon_eq_self (h : c.check = none) (hopen : c.auth = .ok .none → c.key = none)
    (hid : c.networkId = noNetworkId) : c.canon = c := by
  rw [check_eq_none] at h
  have hkey : c.canon.key = c.key := by
    rcases checkSecurity_eq_none.1 h.2 with ⟨hauth, -⟩ | ⟨hauth, key, hkey, hcheck⟩
    · rw [hopen hauth, canon, hauth]
    · rw [hkey, key_canon hauth hkey hcheck]
  have hcanon : c.canon =
      { c with ssid := c.canon.ssid, key := c.canon.key, networkId := noNetworkId } := rfl
  rw [hcanon, ssid_canon h.1, hkey, ← hid]

/-! ## Defaults -/

/-- The number behind a name has four digits. -/
theorem suffix_digits {suffix : Int} (hmin : suffixMin ≤ suffix) (hmax : suffix ≤ suffixMax) :
    Text.IsAscii (Text.ofInt suffix) ∧ (Text.ofInt suffix).length = 4 := by
  rw [suffixMin] at hmin
  rw [suffixMax] at hmax
  rw [Text.ofInt, if_neg (by omega)]
  have hmost : (Text.ofNat suffix.natAbs).length ≤ 4 ↔ _ := Text.length_ofNat_le (by decide)
  have hfewer : (Text.ofNat suffix.natAbs).length ≤ 3 ↔ _ := Text.length_ofNat_le (by decide)
  exact ⟨Text.isAscii_ofNat _, by omega⟩

section Defaults

variable {template : Text} {suffix : Int} {networkId : Int} {u : Uuid}

/-- A name takes five bytes more than its template, and its surrogates are those of the
template. -/
theorem size_withSuffix (hmin : suffixMin ≤ suffix) (hmax : suffix ≤ suffixMax) :
    Utf8.size (template ++ "_" ++ Text.ofInt suffix) = Utf8.size template + 5 ∧
    Text.hasSurrogate (template ++ "_" ++ Text.ofInt suffix) = template.hasSurrogate := by
  obtain ⟨hascii, hlen⟩ := suffix_digits hmin hmax
  have hunderscore : Utf8.size (Text.ofString "_") = 1 := rfl
  have hplain : Text.hasSurrogate (Text.ofString "_") = false := rfl
  rw [Utf8.size_append, Utf8.size_append, hascii.size, hunderscore, hlen,
    Text.hasSurrogate_append, Text.hasSurrogate_append, hascii.hasSurrogate, hplain,
    Bool.or_false, Bool.or_false]
  exact ⟨rfl, rfl⟩

/-- Whatever the template, the key is one of a protected network. -/
theorem checkSecurity_ofDraws : (ofDraws template networkId suffix u).checkSecurity = none := by
  refine checkSecurity_eq_none.2 (.inr ⟨rfl, u.key, rfl, checkKey_eq_none.2 ?_⟩)
  rw [u.isAscii_key.size, u.length_key]
  exact ⟨by decide, by decide, u.isAscii_key.hasSurrogate⟩

end Defaults

/-- **A default is acceptable** if its template is short enough for a number of four
digits. -/
theorem check_ofDraws {template : Text} (hsize : Utf8.size template ≤ 27)
    (htemplate : template.hasSurrogate = false) (networkId : Int) {suffix : Int}
    (hmin : suffixMin ≤ suffix) (hmax : suffix ≤ suffixMax) (u : Uuid) :
    (ofDraws template networkId suffix u).check = none := by
  refine check_eq_none.2 ⟨checkSsid_eq_none.2 ⟨_, rfl, ?_⟩, checkSecurity_ofDraws⟩
  obtain ⟨hname, hsurrogate⟩ := @size_withSuffix template suffix hmin hmax
  rw [hname, hsurrogate]
  exact ⟨by omega, by omega, htemplate⟩

end Config

/-! ## Draws -/

namespace Entropy

/-- A number that is drawn is in range. A draw may also fail. -/
def InRange (e : Entropy) : Prop :=
  ∀ n i, e.suffix n = .ok i → Config.suffixMin ≤ i ∧ i ≤ Config.suffixMax

/-- What is still to be drawn is in range if all was before. -/
theorem InRange.of_drew {e e' : Entropy} (he : e.InRange) (h : e.Drew e') : e'.InRange := by
  rwa [InRange, h.suffix]

end Entropy

/-- What is generated is acceptable, whatever is drawn. -/
theorem Config.ends_generate {e : Entropy} (he : e.InRange) {template : Text}
    (hsize : Utf8.size template ≤ 27) (htemplate : template.hasSurrogate = false)
    (networkId : Int) :
    Ends (generate template networkId) e (fun c e' => c.check = none ∧ e'.InRange)
      (fun _ e' => e'.InRange) := by
  refine (e.ends_generate template networkId).mono ?_ fun _ _ h => he.of_drew h.1
  rintro _ e' ⟨hdrew, suffix, u, hsuffix, -, rfl, -⟩
  obtain ⟨hmin, hmax⟩ := he _ _ hsuffix
  exact ⟨check_ofDraws hsize htemplate networkId hmin hmax u, he.of_drew hdrew⟩

end Hotspot
