/-
# The configuration of an access point

What a hotspot is started with: the name it announces, band, channel, and how
stations authenticate. Authentication is given as a set of key-management
codes, of which a running hotspot needs exactly one:

| code | name | accepted for a hotspot |
| ---: | --- | --- |
| 0 | `NONE` | yes, as an open network |
| 1 | `WPA_PSK` | no |
| 2 | `WPA_EAP` | no |
| 3 | `IEEE8021X` | no |
| 4 | `WPA2_PSK` | yes |

A set may hold codes outside the table, and several codes or none; `auth` says
which code it comes to, or why to none.
-/

import Hotspot.Text.Basic

namespace Hotspot

/-- A key-management scheme. -/
inductive KeyManagement
  | none
  | wpaPsk
  | wpaEap
  | ieee8021x
  | wpa2Psk
  deriving DecidableEq, Repr

namespace KeyManagement

/-- The code of a scheme on file. -/
def code : KeyManagement → Int
  | .none => 0
  | .wpaPsk => 1
  | .wpaEap => 2
  | .ieee8021x => 3
  | .wpa2Psk => 4

/-- The scheme of a code. -/
def ofCode? (i : Int) : Option KeyManagement :=
  [.none, .wpaPsk, .wpaEap, .ieee8021x, .wpa2Psk].find? (·.code = i)

/-- A scheme is found under its own code. -/
theorem ofCode?_code (k : KeyManagement) : ofCode? k.code = some k := by
  cases k <;> rfl

/-- The name of a scheme. -/
def name : KeyManagement → Text
  | .none => "NONE"
  | .wpaPsk => "WPA_PSK"
  | .wpaEap => "WPA_EAP"
  | .ieee8021x => "IEEE8021X"
  | .wpa2Psk => "WPA2_PSK"

end KeyManagement

/-- The protection a hotspot may run with. -/
inductive Security
  | openAccess
  | wpa2Psk
  deriving DecidableEq, Repr

namespace Security

/-- The name of a protection. -/
def name : Security → Text
  | .openAccess => "open"
  | .wpa2Psk => "wpa2_psk"

/-- The protection of a name. -/
def ofName? (t : Text) : Option Security :=
  [.openAccess, .wpa2Psk].find? (·.name = t)

/-- The scheme on file of a protection. -/
def keyManagement : Security → KeyManagement
  | .openAccess => .none
  | .wpa2Psk => .wpa2Psk

/-- The protection of a scheme, if a hotspot may run with it. -/
def ofKeyManagement? (k : KeyManagement) : Option Security :=
  [.openAccess, .wpa2Psk].find? (·.keyManagement = k)

end Security

/-- A finite set of key-management codes, kept in ascending order. -/
structure KeySet where
  codes : List Int
  sorted : codes.Pairwise (· < ·) := by decide
  deriving DecidableEq, Repr

namespace KeySet

/-- Puts a code in its place in an ascending list, once. -/
def place (i : Int) : List Int → List Int
  | [] => [i]
  | j :: rest => if i < j then i :: j :: rest else if i = j then j :: rest else j :: place i rest

/-- A code that is put in its place joins those that are there. -/
theorem mem_place {i k : Int} {codes : List Int} :
    k ∈ place i codes ↔ k = i ∨ k ∈ codes := by
  induction codes with
  | nil => simp [place]
  | cons j rest ih =>
    simp only [place]
    split
    · simp
    · split
      · next h => subst h; simp
      · simp only [List.mem_cons, ih]
        constructor <;> (rintro (h | h | h) <;> simp [h])

/-- It is put where the codes stay in order, and not a second time. -/
theorem pairwise_place {i : Int} {codes : List Int} (h : codes.Pairwise (· < ·)) :
    (place i codes).Pairwise (· < ·) := by
  induction codes with
  | nil => simp [place]
  | cons j rest ih =>
    obtain ⟨hj, hrest⟩ := List.pairwise_cons.1 h
    simp only [place]
    split
    · next hij =>
      refine List.pairwise_cons.2 ⟨fun k hk => ?_, h⟩
      rcases List.mem_cons.1 hk with rfl | hk
      · exact hij
      · exact Int.lt_trans hij (hj k hk)
    · split
      · exact h
      · next hij hne =>
        refine List.pairwise_cons.2 ⟨fun k hk => ?_, ih hrest⟩
        rcases mem_place.1 hk with rfl | hk
        · omega
        · exact hj k hk

/-- The set with one more code. -/
def insert (i : Int) (s : KeySet) : KeySet :=
  ⟨place i s.codes, pairwise_place s.sorted⟩

/-- The empty set. -/
def empty : KeySet := ⟨[], List.Pairwise.nil⟩

/-- The set of one code. -/
def singleton (i : Int) : KeySet := ⟨[i], List.pairwise_singleton _ _⟩

/-- The set of the members of a list. -/
def ofList (codes : List Int) : KeySet :=
  codes.foldr insert empty

end KeySet

/-- Why a set of codes comes to no single scheme. -/
inductive AuthFailure
  /-- Several codes. -/
  | ambiguous
  /-- No set, or an empty one. -/
  | unset
  /-- One code that stands for no scheme. -/
  | unsupported
  deriving DecidableEq, Repr

/-- The name of a failure. -/
def AuthFailure.name : AuthFailure → Text
  | .ambiguous => "ambiguous"
  | .unset => "unset"
  | .unsupported => "unsupported"

/-- The scheme a set of codes comes to. -/
def deriveAuth : Option KeySet → Except AuthFailure KeyManagement
  | none => .error .unset
  | some s =>
    match s.codes with
    | [] => .error .unset
    | [i] =>
      match KeyManagement.ofCode? i with
      | some k => .ok k
      | none => .error .unsupported
    | _ :: _ :: _ => .error .ambiguous

/-- The configuration of an access point. -/
structure Config where
  /-- The network name. -/
  ssid : Option Text
  /-- The band, `0` for 2.4 GHz and `1` for 5 GHz. -/
  band : Int := 0
  /-- The channel, `0` to let the driver choose. -/
  channel : Int := 0
  /-- The key-management codes; none at all is not the same as an empty set. -/
  keyManagement : Option KeySet := some (KeySet.singleton 0)
  /-- The pre-shared key. -/
  key : Option Text := none
  /-- The network identifier, never on file. -/
  networkId : Int := -1
  deriving DecidableEq, Repr

namespace Config

/-- The identifier of a network that has none. -/
def noNetworkId : Int := -1

/-- The identifier of a hotspot that is never stored. -/
def localOnlyNetworkId : Int := -2

/-- A configuration with a given protection. -/
def ofSecurity (ssid : Option Text) (security : Security) (key : Option Text := none)
    (band : Int := 0) (channel : Int := 0) (networkId : Int := noNetworkId) : Config where
  ssid := ssid
  band := band
  channel := channel
  keyManagement := some (KeySet.singleton security.keyManagement.code)
  key := key
  networkId := networkId

/-- The scheme the key-management set comes to. -/
def auth (c : Config) : Except AuthFailure KeyManagement :=
  deriveAuth c.keyManagement

/-- The protection, if the set comes to one a hotspot may run with. -/
def security? (c : Config) : Option Security :=
  match c.auth with
  | .ok k => Security.ofKeyManagement? k
  | .error _ => none

end Config
end Hotspot
