/-
# Interface roles

Which of the candidate interfaces serves the hotspot, and which one bridges.
Of the interfaces that can serve it the last one does, and `softap0`, wherever
it is in the list, has to be created first.
-/

import Hotspot.Text.Basic

namespace Hotspot

/-- The roles of interfaces. -/
structure Roles where
  /-- The interface of the hotspot. -/
  serving : Option Text := none
  /-- The bridge. -/
  bridge : Option Text := none
  /-- An interface has to be created. -/
  needsNew : Bool := false
  deriving DecidableEq, Repr

namespace Roles

/-- The station interface, which can serve a hotspot too. -/
def wlan0 : Text := "wlan0"
/-- The interface of a hotspot of its own. -/
def softap0 : Text := "softap0"
/-- The bridge interface. -/
def wifiBridge : Text := "wifi_br0"

/-- The roles after one more candidate. -/
def add (r : Roles) (name : Text) : Roles :=
  if name = wlan0 then { r with serving := some name }
  else if name = softap0 then { r with serving := some name, needsNew := true }
  else if name = wifiBridge then { r with bridge := some name }
  else r

/-- The roles of a list of candidates. -/
def ofCandidates (candidates : List Text) : Roles :=
  candidates.foldl add {}

end Roles
end Hotspot
