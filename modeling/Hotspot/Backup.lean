/-
# The backup service

The backup service is told of every change of the configuration, and counts
what it is told.
-/

import Hotspot.Log.Record

namespace Hotspot

/-- The backup service. -/
structure Backup where
  /-- A notice is logged. -/
  logs : Bool := false
  /-- The notices so far. -/
  notices : Nat := 0
  deriving DecidableEq, Repr

namespace Backup

/-- The service after one more notice. -/
def notify (b : Backup) : Backup :=
  { b with notices := b.notices + 1 }

/-- What is logged of the last notice. -/
def records (b : Backup) : List Log.Record :=
  if b.logs then
    [{ level := Log.Level.info
       logger := "softap_configd.provider"
       template := "backup_data_changed"
       extras := [("op", .text ("notify#" ++ Text.ofNat b.notices))] }]
  else []

end Backup
end Hotspot
