/-
# The first rule that a configuration breaks

Each rule is about a configuration by itself, whatever comes of the rules before it:

| rule | broken by |
| --- | --- |
| `emptySsid` | a name that is absent or empty |
| `ssidLength` | a name that takes no 1 to 32 bytes |
| `malformedSsid` | a surrogate in the name |
| `missingCapabilities` | no key-management set |
| `ambiguousAuth` | a set of no code, or of several |
| `unsupportedAuth` | a set of one code that is neither `NONE` nor `WPA2_PSK` |
| `keyOnOpenNetwork` | the set `{NONE}`, and a key that is not empty |
| `missingKey` | the set `{WPA2_PSK}`, and a key that is absent or empty |
| `keyLength` | the set `{WPA2_PSK}`, and a key that takes no 8 to 63 bytes |
| `malformedKey` | the set `{WPA2_PSK}`, and a surrogate in the key |

A check looks at them one after the other and stops at the first that is broken, in the
order of the table (`rule_check`). A name may break several rules at once, an empty one the
first two, and so may a key; the rules about the set exclude each other.
-/

import Hotspot.Proofs.Config.Acceptable
import Hotspot.Proofs.Text.StoredSize

namespace Hotspot
namespace Config

variable {c : Config} {t : Text}

/-! ## Rules one by one -/

/-- A text takes as many bytes of UTF-8 as allowed, three for a surrogate. -/
def HasSize (low high : Nat) (t : Text) : Prop :=
  low ≤ (Utf8.encode t).length ∧ (Utf8.encode t).length ≤ high

instance (low high : Nat) (t : Text) : Decidable (HasSize low high t) :=
  inferInstanceAs (Decidable (_ ∧ _))

/-- The key-management set is the one of open networks. -/
def IsOpen (c : Config) : Prop := c.keyManagement = some (KeySet.singleton 0)

instance (c : Config) : Decidable c.IsOpen :=
  inferInstanceAs (Decidable (_ = _))

/-- The key-management set is the one of networks with a key. -/
def IsProtected (c : Config) : Prop := c.keyManagement = some (KeySet.singleton 4)

instance (c : Config) : Decidable c.IsProtected :=
  inferInstanceAs (Decidable (_ = _))

/-- A configuration breaks a rule. -/
def Breaks (c : Config) : Rule → Prop
  | .emptySsid => c.ssid.getD [] = []
  | .ssidLength => ¬HasSize 1 32 (c.ssid.getD [])
  | .malformedSsid => ∃ x ∈ c.ssid.getD [], x.isSurrogate = true
  | .missingCapabilities => c.keyManagement = none
  | .ambiguousAuth => ∃ s ∈ c.keyManagement, s.codes.length ≠ 1
  | .unsupportedAuth => (∃ s ∈ c.keyManagement, s.codes.length = 1) ∧ ¬c.IsOpen ∧ ¬c.IsProtected
  | .keyOnOpenNetwork => c.IsOpen ∧ c.key.getD [] ≠ []
  | .missingKey => c.IsProtected ∧ c.key.getD [] = []
  | .keyLength => c.IsProtected ∧ ¬HasSize 8 63 (c.key.getD [])
  | .malformedKey => c.IsProtected ∧ ∃ x ∈ c.key.getD [], x.isSurrogate = true

instance (c : Config) : DecidablePred c.Breaks
  | .emptySsid | .missingCapabilities => inferInstanceAs (Decidable (_ = _))
  | .ssidLength => inferInstanceAs (Decidable (¬_))
  | .malformedSsid => inferInstanceAs (Decidable (∃ x ∈ c.ssid.getD [], x.isSurrogate = true))
  | .ambiguousAuth => inferInstanceAs (Decidable (∃ s ∈ c.keyManagement, s.codes.length ≠ 1))
  | .unsupportedAuth =>
    inferInstanceAs (Decidable ((∃ s ∈ c.keyManagement, s.codes.length = 1) ∧ _))
  | .keyOnOpenNetwork | .missingKey | .keyLength => inferInstanceAs (Decidable (_ ∧ _))
  | .malformedKey =>
    inferInstanceAs (Decidable (_ ∧ ∃ x ∈ c.key.getD [], x.isSurrogate = true))

/-- The rules about the name, in their order. -/
def Rule.ofName : List Rule := [.emptySsid, .ssidLength, .malformedSsid]

/-- The rules about the security, in their order. -/
def Rule.ofSecurity : List Rule :=
  [.missingCapabilities, .ambiguousAuth, .unsupportedAuth, .keyOnOpenNetwork, .missingKey,
    .keyLength, .malformedKey]

/-- All rules, in their order. -/
def Rule.order : List Rule := Rule.ofName ++ Rule.ofSecurity

/-- The first of some rules that a configuration breaks. -/
def firstBroken (c : Config) (rules : List Rule) : Option Rule :=
  rules.find? fun r => c.Breaks r

/-! ## What a check of a text looks at -/

/-- A size that is allowed is neither too small nor too large. -/
theorem hasSize_iff {low high : Nat} :
    HasSize low high t ↔ ¬(Utf8.size t < low ∨ high < Utf8.size t) := by
  rw [HasSize, Utf8.length_encode]
  omega

/-- A text has a surrogate just if the test for one says so. -/
theorem exists_isSurrogate_iff :
    (∃ x ∈ t, x.isSurrogate = true) ↔ t.hasSurrogate = true := by
  rw [Text.hasSurrogate, List.any_eq_true]

/-- It has none just if the test says that. -/
theorem forall_isSurrogate_iff :
    (∀ x ∈ t, x.isSurrogate = false) ↔ t.hasSurrogate = false := by
  rw [Text.hasSurrogate, List.any_eq_false]
  simp only [Bool.not_eq_true]

/-! ## One rule after the other -/

variable {r : Rule} {rules : List Rule}

/-- If the first rule is broken it is the first that is. -/
theorem firstBroken_of_breaks (h : c.Breaks r) : c.firstBroken (r :: rules) = some r :=
  List.find?_cons_of_pos (decide_eq_true h)

/-- Else the others are looked at. -/
theorem firstBroken_of_not_breaks (h : ¬c.Breaks r) :
    c.firstBroken (r :: rules) = c.firstBroken rules :=
  List.find?_cons_of_neg (by rwa [decide_eq_true_eq])

/-- A text that is there is refused for its size before it is for a surrogate. -/
theorem firstBroken_of_text {tooLong malformed : Violation} {low high : Nat}
    (hsize : c.Breaks tooLong.rule ↔ ¬HasSize low high t)
    (hsurrogate : c.Breaks malformed.rule ↔ ∃ x ∈ t, x.isSurrogate = true) :
    (if Utf8.size t < low ∨ high < Utf8.size t then some tooLong
      else if t.hasSurrogate then some malformed else none).map Violation.rule =
        c.firstBroken [tooLong.rule, malformed.rule] := by
  rw [hasSize_iff, not_not] at hsize
  rw [exists_isSurrogate_iff] at hsurrogate
  split
  · next hlong => rw [firstBroken_of_breaks (hsize.2 hlong), Option.map_some]
  · next hfits =>
    rw [firstBroken_of_not_breaks (mt hsize.1 hfits)]
    split
    · next h => rw [firstBroken_of_breaks (hsurrogate.2 h), Option.map_some]
    · next h =>
      rw [firstBroken_of_not_breaks (mt hsurrogate.1 h)]
      rfl

/-! ## The groups -/

/-- **A name is refused for the first rule of its group that it breaks.** -/
theorem rule_checkSsid (c : Config) :
    (checkSsid c.ssid).map Violation.rule = c.firstBroken Rule.ofName := by
  have hempty : c.Breaks .emptySsid ↔ c.ssid.getD [] = [] := Iff.rfl
  rw [Rule.ofName]
  rcases hssid : c.ssid with _ | _ | ⟨x, name⟩
  · rw [firstBroken_of_breaks (hempty.2 (by rw [hssid]; rfl))]
    rfl
  · rw [firstBroken_of_breaks (hempty.2 (by rw [hssid]; rfl))]
    rfl
  · rw [firstBroken_of_not_breaks (mt hempty.1 (by rw [hssid]; exact List.cons_ne_nil x name))]
    have hname : c.ssid.getD [] = x :: name := by rw [hssid, Option.getD_some]
    exact firstBroken_of_text (by rw [← hname]; rfl)
      (by rw [← hname]; rfl)

/-- A set of one code breaks no rule about sets, or is of another scheme. -/
theorem firstBroken_of_single {s : KeySet} (hset : c.keyManagement = some s)
    (hone : s.codes.length = 1) : c.firstBroken Rule.ofSecurity =
      c.firstBroken [.unsupportedAuth, .keyOnOpenNetwork, .missingKey, .keyLength,
        .malformedKey] := by
  have hmissing : ¬c.Breaks .missingCapabilities := by
    rw [Breaks, hset]
    exact Option.some_ne_none s
  have hambiguous : ¬c.Breaks .ambiguousAuth := by
    rintro ⟨s', hs', hne⟩
    obtain rfl : s = s' := Option.some.inj (hset.symm.trans hs')
    exact hne hone
  rw [Rule.ofSecurity, firstBroken_of_not_breaks hmissing, firstBroken_of_not_breaks hambiguous]

/-- A network is not both open and one with a key. -/
theorem not_isProtected_of_isOpen (h : c.IsOpen) : ¬c.IsProtected := by
  rw [IsOpen] at h
  rw [IsProtected, h]
  decide

/-- An open network is refused for a key, and for nothing else about its security. -/
theorem firstBroken_of_isOpen (h : c.IsOpen) :
    c.firstBroken Rule.ofSecurity = c.firstBroken [.keyOnOpenNetwork] := by
  have hprotected := not_isProtected_of_isOpen h
  have hunsupported : ¬c.Breaks .unsupportedAuth := fun hbroken => hbroken.2.1 h
  have hmissing : ¬c.Breaks .missingKey := fun hbroken => hprotected hbroken.1
  have hlength : ¬c.Breaks .keyLength := fun hbroken => hprotected hbroken.1
  have hmalformed : ¬c.Breaks .malformedKey := fun hbroken => hprotected hbroken.1
  rw [firstBroken_of_single h rfl, firstBroken_of_not_breaks hunsupported]
  by_cases hkey : c.Breaks .keyOnOpenNetwork
  · rw [firstBroken_of_breaks hkey, firstBroken_of_breaks hkey]
  · rw [firstBroken_of_not_breaks hkey, firstBroken_of_not_breaks hmissing,
      firstBroken_of_not_breaks hlength, firstBroken_of_not_breaks hmalformed,
      firstBroken_of_not_breaks hkey]

/-- A protected network is refused for its key. -/
theorem firstBroken_of_isProtected (h : c.IsProtected) :
    c.firstBroken Rule.ofSecurity = c.firstBroken [.missingKey, .keyLength, .malformedKey] := by
  have hunsupported : ¬c.Breaks .unsupportedAuth := fun hbroken => hbroken.2.2 h
  have hopen : ¬c.Breaks .keyOnOpenNetwork := fun hbroken => not_isProtected_of_isOpen hbroken.1 h
  rw [firstBroken_of_single h rfl, firstBroken_of_not_breaks hunsupported,
    firstBroken_of_not_breaks hopen]

/-- A set of no code or of several comes to no scheme. -/
theorem auth_of_ambiguous {s : KeySet} (hset : c.keyManagement = some s)
    (hmany : s.codes.length ≠ 1) : ∃ failure, c.auth = .error failure ∧ failure ≠ .unsupported := by
  obtain ⟨codes, hsorted⟩ := s
  rw [auth, hset]
  rcases codes with _ | ⟨i, _ | ⟨j, codes⟩⟩
  · exact ⟨.unset, rfl, by decide⟩
  · exact absurd rfl hmany
  · exact ⟨.ambiguous, rfl, by decide⟩

/-- A set of one code comes to the scheme of the code, if it has one. -/
theorem auth_of_single {s : KeySet} (hset : c.keyManagement = some s) {i : Int}
    (hone : s.codes = [i]) :
    c.auth = (KeyManagement.ofCode? i).elim (.error .unsupported) .ok := by
  obtain ⟨codes, hsorted⟩ := s
  obtain rfl : codes = [i] := hone
  cases hk : KeyManagement.ofCode? i <;> simp [auth, hset, deriveAuth, hk]

/-- In an open network the check looks at the rule about the key that is not allowed. -/
theorem rule_checkSecurity_of_isOpen (h : c.IsOpen) :
    c.checkSecurity.map Violation.rule = c.firstBroken Rule.ofSecurity := by
  have hset : c.keyManagement = some (KeySet.singleton 0) := h
  have hauth : c.auth = .ok .none := auth_eq_ok.2 h
  have hbreaks : c.Breaks .keyOnOpenNetwork ↔ c.key.getD [] ≠ [] := and_iff_right h
  rw [firstBroken_of_isOpen h, checkSecurity, hset, hauth]
  rcases hkey : c.key with _ | _ | ⟨x, key⟩
  · rw [firstBroken_of_not_breaks (mt hbreaks.1 (by rw [hkey]; exact not_not.2 rfl))]
    rfl
  · rw [firstBroken_of_not_breaks (mt hbreaks.1 (by rw [hkey]; exact not_not.2 rfl))]
    rfl
  · rw [firstBroken_of_breaks (hbreaks.2 (by rw [hkey]; exact List.cons_ne_nil x key))]
    rfl

/-- In one with a key it looks at the rules about the key, in their order. -/
theorem rule_checkSecurity_of_isProtected (h : c.IsProtected) :
    c.checkSecurity.map Violation.rule = c.firstBroken Rule.ofSecurity := by
  have hset : c.keyManagement = some (KeySet.singleton 4) := h
  have hauth : c.auth = .ok .wpa2Psk := auth_eq_ok.2 h
  have hmissing : c.Breaks .missingKey ↔ c.key.getD [] = [] := and_iff_right h
  have hlength : c.Breaks .keyLength ↔ ¬HasSize 8 63 (c.key.getD []) := and_iff_right h
  have hmalformed : c.Breaks .malformedKey ↔ ∃ x ∈ c.key.getD [], x.isSurrogate = true :=
    and_iff_right h
  rw [firstBroken_of_isProtected h, checkSecurity, hset, hauth]
  rcases hkey : c.key with _ | _ | ⟨x, key⟩
  · rw [firstBroken_of_breaks (hmissing.2 (by rw [hkey]; rfl))]
    rfl
  · rw [firstBroken_of_breaks (hmissing.2 (by rw [hkey]; rfl))]
    rfl
  · rw [hkey, Option.getD_some] at hmissing hlength hmalformed
    rw [firstBroken_of_not_breaks (mt hmissing.1 (List.cons_ne_nil x key))]
    exact firstBroken_of_text hlength hmalformed

/-- A set of one code is that of open networks, that of protected ones, or not supported. -/
theorem rule_checkSecurity_of_single {s : KeySet} (hset : c.keyManagement = some s)
    (hone : s.codes.length = 1) :
    c.checkSecurity.map Violation.rule = c.firstBroken Rule.ofSecurity := by
  obtain ⟨i, hi⟩ := List.length_eq_one_iff.1 hone
  by_cases hopen : c.IsOpen
  · exact rule_checkSecurity_of_isOpen hopen
  by_cases hprotected : c.IsProtected
  · exact rule_checkSecurity_of_isProtected hprotected
  have hunsupported : c.Breaks .unsupportedAuth := ⟨⟨s, hset, hone⟩, hopen, hprotected⟩
  have hauth := auth_of_single hset hi
  rw [firstBroken_of_single hset hone, firstBroken_of_breaks hunsupported, checkSecurity, hset]
  cases hk : KeyManagement.ofCode? i with
  | none =>
    rw [hk] at hauth
    rw [hauth]
    rfl
  | some k =>
    rw [hk] at hauth
    rw [hauth]
    cases k with
    | none => exact absurd (auth_eq_ok.1 hauth) hopen
    | wpa2Psk => exact absurd (auth_eq_ok.1 hauth) hprotected
    | wpaPsk | wpaEap | ieee8021x => rfl

/-- **A configuration is refused for the first rule of the security group that it breaks.** -/
theorem rule_checkSecurity (c : Config) :
    c.checkSecurity.map Violation.rule = c.firstBroken Rule.ofSecurity := by
  cases hset : c.keyManagement with
  | none =>
    have hmissing : c.Breaks .missingCapabilities := hset
    rw [checkSecurity, hset, Rule.ofSecurity, firstBroken_of_breaks hmissing]
    rfl
  | some s =>
    by_cases hone : s.codes.length = 1
    · exact rule_checkSecurity_of_single hset hone
    · obtain ⟨failure, hauth, hne⟩ := auth_of_ambiguous hset hone
      have hmissing : ¬c.Breaks .missingCapabilities := by
        rw [Breaks, hset]
        exact Option.some_ne_none s
      have hambiguous : c.Breaks .ambiguousAuth := ⟨s, hset, hone⟩
      rw [Rule.ofSecurity, firstBroken_of_not_breaks hmissing, firstBroken_of_breaks hambiguous,
        checkSecurity, hset, hauth]
      cases failure with
      | unsupported => exact absurd rfl hne
      | _ => rfl

/-! ## The whole check -/

/-- **A configuration is refused for the first rule that it breaks**, if it breaks any. -/
theorem rule_check (c : Config) : c.check.map Violation.rule = c.firstBroken Rule.order := by
  rw [check, Option.map_or, rule_checkSsid, rule_checkSecurity, Rule.order, firstBroken,
    firstBroken, firstBroken, List.find?_append]

/-- A name of eleven surrogates takes 33 bytes, and is refused for that. -/
example : check { ssid := some (List.replicate 11 0xD800) } = some (.ssidLength 33) := by decide

/-- What is collected is the first broken rule about the name and the first about the
security. -/
theorem rule_violations (c : Config) :
    c.violations.map Violation.rule =
      (c.firstBroken Rule.ofName).toList ++ (c.firstBroken Rule.ofSecurity).toList := by
  rw [violations, List.map_append, ← rule_checkSsid, ← rule_checkSecurity, Option.toList_map,
    Option.toList_map]

/-- The check gives the first of what is found in the two groups. -/
theorem check_eq_head?_violations (c : Config) : c.check = c.violations.head? := by
  rw [check, violations, List.head?_append, Option.head?_toList, Option.head?_toList]

/-- What is asked of a configuration that breaks no rule. -/
structure Acceptable (c : Config) : Prop where
  name : ∃ name, c.ssid = some name ∧ name ≠ [] ∧ HasSize 1 32 name ∧
    ∀ x ∈ name, x.isSurrogate = false
  security : c.IsOpen ∧ (c.key = none ∨ c.key = some []) ∨
    c.IsProtected ∧ ∃ key, c.key = some key ∧ key ≠ [] ∧ HasSize 8 63 key ∧
      ∀ x ∈ key, x.isSurrogate = false

/-- A text of a size in range is not empty. -/
theorem text_iff {low high : Nat} (hlow : 1 ≤ low) :
    t ≠ [] ∧ HasSize low high t ∧ (∀ x ∈ t, x.isSurrogate = false) ↔
      low ≤ Utf8.size t ∧ Utf8.size t ≤ high ∧ t.hasSurrogate = false := by
  rw [forall_isSurrogate_iff, HasSize, Utf8.length_encode, and_assoc, and_iff_right_iff_imp]
  rintro ⟨hmin, -⟩ rfl
  rw [Utf8.size_nil] at hmin
  omega

/-- A configuration is let through exactly if it is as asked. -/
theorem check_eq_none_iff_acceptable : c.check = none ↔ c.Acceptable := by
  have hopen : c.auth = .ok .none ↔ c.IsOpen := auth_eq_ok
  have hprotected : c.auth = .ok .wpa2Psk ↔ c.IsProtected := auth_eq_ok
  have hacceptable : c.Acceptable ↔ _ ∧ _ := ⟨fun h => ⟨h.name, h.security⟩, fun h => ⟨h.1, h.2⟩⟩
  rw [check_eq_none, checkSsid_eq_none, checkSecurity_eq_none, hopen, hprotected, hacceptable]
  simp only [checkKey_eq_none, text_iff (Nat.le_refl 1), text_iff (show 1 ≤ 8 by decide)]

end Config
end Hotspot
