/-
# The overlay

The vendor of a device adapts the hotspot by an overlay: members of a JSON
object that replace the standard ones. Members of other names are kept, and a
value of a kind that is not expected is read as well as it can be.

| member | standard |
| --- | --- |
| name template of the hotspot | `AndroidAP` |
| name template of a hotspot that is never stored | `AndroidShare` |
| channels of the 2.4 GHz band | `1,6,11` |
| candidate interfaces | `wlan0` |
| two hotspots at once | no |
| interfaces of the two | none |
-/

import Hotspot.Channels
import Hotspot.Json.Writer
import Hotspot.Overlay.Name
import Hotspot.RunSort

namespace Hotspot

namespace Overlay

/-- Members under names of any kind, each of them once. -/
abbrev Members := List (Name × Json)

namespace Members

/-- Gives a name a value: in place, or at the end if the name is new. A name stays
as it first came. -/
def set (name : Name) (value : Json) : Members → Members
  | [] => [(name, value)]
  | (n, v) :: rest =>
    if n.same name then (n, value) :: rest else (n, v) :: set name value rest

/-- Sets every member of an object in turn. -/
def merge (m : Members) (other : Json.Members) : Members :=
  other.foldl (fun m (name, value) => set (.text name) value m) m

/-- The members whose names are texts. -/
def texts (m : Members) : Json.Members :=
  m.filterMap fun (name, value) => name.text?.map fun t => (t, value)

end Members
end Overlay

/-- The overlay in force. -/
structure Overlay where
  members : Overlay.Members
  deriving Repr

namespace Overlay

/-- The member with the name template of the hotspot. -/
def templateName : Text := "wifi_tether_configure_ssid_default"
/-- The member with the name template of a hotspot that is never stored. -/
def localTemplateName : Text := "wifi_localhotspot_configure_ssid_default"
/-- The member with the channels. -/
def channelsName : Text := "config_wifi_framework_sap_2G_channel_list"
/-- The member with the candidate interfaces. -/
def candidatesName : Text := "config_tether_wifi_regexs"
/-- The member that allows two hotspots at once. -/
def dualName : Text := "config_wifi_dual_sap_mode_enabled"
/-- The member with the interfaces of two hotspots. -/
def dualInterfacesName : Text := "config_wifi_dual_sap_interfaces"

/-- The standard members. -/
def standardMembers : Json.Members := [
  (templateName, .text "AndroidAP"),
  (localTemplateName, .text "AndroidShare"),
  (channelsName, .text "1,6,11"),
  (candidatesName, .array [.text "wlan0"]),
  (dualName, .bool false),
  (dualInterfacesName, .array [])]

/-- The members that a value sets: those of an object. -/
def membersOf : Json → Json.Members
  | .object members => members
  | _ => []

/-- The overlay of some members over the standard ones. -/
def ofMembers (members : Json.Members) : Overlay where
  members := (Members.merge [] standardMembers).merge members

/-- The value of a member. -/
def value (o : Overlay) (name : Text) : Json :=
  (o.members.lookup (.text name)).getD .null

/-- The texts of a value that may be a single one. -/
def texts : Json → Except ListError (List Text)
  | .null => .ok []
  | .text t => .ok [t]
  | list => do Json.textsOf (← list.items.mapError .notAList)

/-- The name template of the hotspot, unless an integer in it has too many digits to
be shown. -/
def template? (o : Overlay) : Option Text :=
  (o.value templateName).shown?

/-- The name template of a hotspot that is never stored, in the same way. -/
def localTemplate? (o : Overlay) : Option Text :=
  (o.value localTemplateName).shown?

/-- The channels of the 2.4 GHz band, if they are listed. -/
def channels (o : Overlay) : Except ListError (Option (List Int)) :=
  Channels.ofList (o.value channelsName)

/-- What is logged when the channels are read. -/
def channelRecords (o : Overlay) : List Log.Record :=
  Channels.records (o.value channelsName)

/-- The candidate interfaces. -/
def candidates (o : Overlay) : Except ListError (List Text) :=
  texts (o.value candidatesName)

/-- Two hotspots may run at once. -/
def dualSupported (o : Overlay) : Bool :=
  (o.value dualName).truthy

/-- The interfaces of two hotspots. -/
def dualInterfaces (o : Overlay) : Except ListError (List Text) :=
  texts (o.value dualInterfacesName)

/-- The overlay as JSON, on one line, in the order of the names. The standard names
are texts, so that all are where they have an order. -/
def text (o : Overlay) : Except NoOrder Text := do
  let _ ← RunSort.sort Name.less (o.members.map (·.1))
  pure ((Json.object o.members.texts).write Json.oneLine)

end Overlay
end Hotspot
