/-
# Acceptable configurations

Whoever hands in a configuration gets the first rule it breaks. The rules come
in two groups, and the first group is looked at first:

| group | rule | broken by |
| --- | --- | --- |
| name | `empty_ssid` | no name, or an empty one |
| name | `ssid_length_out_of_range` | a name that takes no 1 to 32 bytes of UTF-8 |
| name | `malformed_ssid_encoding` | a surrogate in the name |
| security | `missing_capabilities` | no key-management set |
| security | `ambiguous_auth_type` | a set of no code, or of several |
| security | `unsupported_auth_type` | a code other than `NONE` and `WPA2_PSK` |
| security | `password_on_open_network` | a key that is not needed |
| security | `missing_password` | no key where one is needed |
| security | `password_length_out_of_range` | a key that takes no 8 to 63 bytes |
| security | `malformed_password_encoding` | a surrogate in the key |
-/

import Hotspot.Config.Basic
import Hotspot.Log.Record
import Hotspot.Utf8

namespace Hotspot
namespace Config

/-- The rules. -/
inductive Rule
  | emptySsid
  | ssidLength
  | malformedSsid
  | missingCapabilities
  | ambiguousAuth
  | unsupportedAuth
  | keyOnOpenNetwork
  | missingKey
  | keyLength
  | malformedKey
  deriving DecidableEq, Repr

/-- The name of a rule. -/
def Rule.name : Rule → Text
  | .emptySsid => "empty_ssid"
  | .ssidLength => "ssid_length_out_of_range"
  | .malformedSsid => "malformed_ssid_encoding"
  | .missingCapabilities => "missing_capabilities"
  | .ambiguousAuth => "ambiguous_auth_type"
  | .unsupportedAuth => "unsupported_auth_type"
  | .keyOnOpenNetwork => "password_on_open_network"
  | .missingKey => "missing_password"
  | .keyLength => "password_length_out_of_range"
  | .malformedKey => "malformed_password_encoding"

/-- A broken rule, and by what. -/
inductive Violation
  | emptySsid
  | ssidLength (size : Nat)
  | malformedSsid
  | missingCapabilities
  | ambiguousAuth (failure : AuthFailure)
  | unknownCode
  | unsupportedScheme (scheme : KeyManagement)
  | keyOnOpenNetwork
  | missingKey
  | keyLength (size : Nat)
  | malformedKey
  deriving DecidableEq, Repr

/-- The least and the greatest size of a name. -/
def ssidMin : Nat := 1
/-- The greatest size of a name. -/
def ssidMax : Nat := 32
/-- The least size of a key. -/
def keyMin : Nat := 8
/-- The greatest size of a key. -/
def keyMax : Nat := 63

namespace Violation

/-- The rule that is broken. -/
def rule : Violation → Rule
  | .emptySsid => .emptySsid
  | .ssidLength _ => .ssidLength
  | .malformedSsid => .malformedSsid
  | .missingCapabilities => .missingCapabilities
  | .ambiguousAuth _ => .ambiguousAuth
  | .unknownCode | .unsupportedScheme _ => .unsupportedAuth
  | .keyOnOpenNetwork => .keyOnOpenNetwork
  | .missingKey => .missingKey
  | .keyLength _ => .keyLength
  | .malformedKey => .malformedKey

/-- The field that breaks it. -/
def field : Violation → Text
  | .emptySsid | .ssidLength _ | .malformedSsid => "ssid"
  | .missingCapabilities | .ambiguousAuth _ | .unknownCode | .unsupportedScheme _ =>
    "allowed_key_management"
  | .keyOnOpenNetwork | .missingKey | .keyLength _ | .malformedKey => "pre_shared_key"

/-- The wording of a size out of range. -/
def sizeText (what : Text) (size low high : Nat) : Text :=
  what ++ " is " ++ Text.ofNat size ++ " bytes, allowed " ++ Text.ofNat low ++ ".." ++
    Text.ofNat high

/-- The wording of a violation. -/
def detail : Violation → Text
  | .emptySsid => "ssid must be set"
  | .ssidLength size => sizeText "ssid" size ssidMin ssidMax
  | .malformedSsid => "ssid is not valid utf-8"
  | .missingCapabilities => "key management set is unset"
  | .ambiguousAuth failure => "cannot derive auth type (" ++ failure.name ++ ")"
  | .unknownCode => "unknown auth type code, use open or wpa2_psk"
  | .unsupportedScheme scheme =>
    "auth type " ++ scheme.name ++ " not supported, use open or wpa2_psk"
  | .keyOnOpenNetwork => "open network must not carry a password"
  | .missingKey => "password must be set"
  | .keyLength size => sizeText "password" size keyMin keyMax
  | .malformedKey => "password is not valid utf-8"

/-- What is logged of a violation: the key itself never is. -/
def record (v : Violation) : Log.Record where
  level := Log.Level.debug
  logger := "softap_configd.validation"
  template := "softap_config_rejected " ++ v.detail
  extras := [("field", .text v.field), ("rule", .text v.rule.name)]

end Violation

/-- The first rule of the name group that a name breaks. -/
def checkSsid (ssid : Option Text) : Option Violation :=
  match ssid with
  | none | some [] => some .emptySsid
  | some name =>
    let size := Utf8.size name
    if size < ssidMin ∨ ssidMax < size then some (.ssidLength size)
    else if Text.hasSurrogate name then some .malformedSsid
    else none

/-- The first rule that a key breaks which is needed and there. -/
def checkKey (key : Text) : Option Violation :=
  let size := Utf8.size key
  if size < keyMin ∨ keyMax < size then some (.keyLength size)
  else if Text.hasSurrogate key then some .malformedKey
  else none

/-- The first rule of the security group that a configuration breaks. -/
def checkSecurity (c : Config) : Option Violation :=
  match c.keyManagement with
  | none => some .missingCapabilities
  | some _ =>
    match c.auth with
    | .error .unsupported => some .unknownCode
    | .error failure => some (.ambiguousAuth failure)
    | .ok .none =>
      match c.key with
      | none | some [] => none
      | some _ => some .keyOnOpenNetwork
    | .ok .wpa2Psk =>
      match c.key with
      | none | some [] => some .missingKey
      | some key => checkKey key
    | .ok scheme => some (.unsupportedScheme scheme)

/-- The first rule that a configuration breaks. -/
def check (c : Config) : Option Violation :=
  (checkSsid c.ssid).or c.checkSecurity

/-- The configuration breaks no rule. -/
def isAcceptable (c : Config) : Bool :=
  c.check.isNone

/-- The first broken rule of each group. -/
def violations (c : Config) : List Violation :=
  (checkSsid c.ssid).toList ++ c.checkSecurity.toList

end Config
end Hotspot
