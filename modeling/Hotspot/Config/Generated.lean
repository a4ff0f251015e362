/-
# Generated configurations

A hotspot that was never configured starts protected all the same: its name is
a template with a random number, and its key is taken from a random UUID. A
UUID is written in groups of 8, 4, 4, 4 and 12 hexadecimal digits, and the key
is the first two groups, which hold nothing but random bits.
-/

import Hotspot.Config.Basic

namespace Hotspot

/-- A UUID, as a number of 128 bits. -/
abbrev Uuid := Fin 0x100000000000000000000000000000000

/-- The text of a UUID. -/
def Uuid.text (u : Uuid) : Text :=
  let digits := Text.ofHex 32 u.val
  Text.joinWith "-" [digits.take 8, (digits.drop 8).take 4, (digits.drop 12).take 4,
    (digits.drop 16).take 4, digits.drop 20]

/-- The key of a UUID: its text up to the second hyphen, without the first. -/
def Uuid.key (u : Uuid) : Text :=
  u.text.take 8 ++ (u.text.drop 9).take 4

/-- The random inputs: what each draw of a number and of a UUID gives, or the
message it fails with, and how many of either were drawn. -/
structure Entropy where
  suffix : Nat → Except Text Int
  uuid : Nat → Except Text Uuid
  suffixesDrawn : Nat := 0
  uuidsDrawn : Nat := 0

namespace Entropy

/-- Draws a number. -/
def drawSuffix : EStateM Text Entropy Int := do
  let e ← get
  set { e with suffixesDrawn := e.suffixesDrawn + 1 }
  match e.suffix e.suffixesDrawn with
  | .ok i => pure i
  | .error message => throw message

/-- Draws a UUID. -/
def drawUuid : EStateM Text Entropy Uuid := do
  let e ← get
  set { e with uuidsDrawn := e.uuidsDrawn + 1 }
  match e.uuid e.uuidsDrawn with
  | .ok u => pure u
  | .error message => throw message

end Entropy

namespace Config

/-- The least number behind a name. -/
def suffixMin : Int := 1000
/-- The greatest number behind a name. -/
def suffixMax : Int := 9999

/-- The configuration of a name template, a number and a UUID. -/
def ofDraws (template : Text) (networkId : Int) (suffix : Int) (u : Uuid) : Config :=
  ofSecurity (some (template ++ "_" ++ Text.ofInt suffix)) .wpa2Psk (some u.key) 0 0 networkId

/-- A configuration of a name template, freshly drawn. -/
def generate (template : Text) (networkId : Int) : EStateM Text Entropy Config := do
  let suffix ← Entropy.drawSuffix
  let u ← Entropy.drawUuid
  pure (ofDraws template networkId suffix u)

/-- A default configuration. -/
def generateDefault (template : Text) : EStateM Text Entropy Config :=
  generate template noNetworkId

/-- A configuration for a hotspot that is never stored. -/
def generateLocalOnly (template : Text) : EStateM Text Entropy Config :=
  generate template localOnlyNetworkId

end Config
end Hotspot
