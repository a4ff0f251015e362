/-
# Showing a configuration

A configuration is shown with its scheme and protection by name. The key is
masked unless it is asked for; that there is none shows in any case.
-/

import Hotspot.Config.Basic
import Hotspot.Log.Record

namespace Hotspot
namespace Config

/-- The key as it is shown. -/
def shownKey (c : Config) (reveal : Bool) : Option Text :=
  match c.key with
  | none => none
  | some [] => some []
  | some key => some (if reveal then key else Log.mask)

/-- The scheme by name, or why there is none. -/
def authName (c : Config) : Text :=
  match c.auth with
  | .ok k => k.name
  | .error failure => failure.name

/-- A text that may be absent. -/
def optionalText : Option Text → Json
  | none => .null
  | some t => .text t

/-- A configuration as it is shown. -/
def describe (c : Config) (reveal : Bool) : Json :=
  .object [
    ("ssid", optionalText c.ssid),
    ("ap_band", .int c.band),
    ("ap_channel", .int c.channel),
    ("auth_type", .text c.authName),
    ("security", optionalText (c.security?.map Security.name)),
    ("pre_shared_key", optionalText (c.shownKey reveal)),
    ("network_id", .int c.networkId)]

/-- A configuration as it is shown without its key. -/
def redacted (c : Config) : Json :=
  c.describe false

end Config
end Hotspot
