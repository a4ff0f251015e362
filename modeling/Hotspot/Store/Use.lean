/-
# Uses of a store

A running store is asked (`Hotspot.Store.Request`), and it is looked up in: what it took
over from the overlay and the concurrency template when it started.

| lookup | found |
| --- | --- |
| `channels` | the 2.4 GHz channels of the overlay, if it limits them |
| `concurrency` | what may run side by side |
| `roles` | the roles of the interfaces |
| `stationAllowed`, `channel`, `dualSupported`, `dualInterfaces`, `dualActive` | one part of the concurrency |
| `serving`, `bridge`, `needsNew` | one part of the roles |

While a store runs others may change the files.
-/

import Hotspot.Store.Request

namespace Hotspot
namespace Store

/-- What can be looked up in a store. -/
inductive Lookup
  | channels
  | concurrency
  | roles
  | stationAllowed
  | channel
  | serving
  | bridge
  | needsNew
  | dualSupported
  | dualInterfaces
  | dualActive
  deriving DecidableEq, Repr

/-- What is found. -/
inductive Found
  | channels (channels : Option (List Int))
  | concurrency (concurrency : Concurrency)
  | roles (roles : Roles)
  | flag (value : Bool)
  | number (value : Int)
  | interface (name : Option Text)
  | interfaces (names : List Text)
  deriving DecidableEq, Repr

/-- Looks something up. -/
def lookUp (s : Store) : Lookup → Found
  | .channels => .channels s.channels
  | .concurrency => .concurrency s.concurrency
  | .roles => .roles s.roles
  | .stationAllowed => .flag s.concurrency.stationAllowed
  | .channel => .number s.concurrency.channel
  | .serving => .interface s.roles.serving
  | .bridge => .interface s.roles.bridge
  | .needsNew => .flag s.roles.needsNew
  | .dualSupported => .flag s.concurrency.dualSupported
  | .dualInterfaces => .interfaces s.concurrency.dualInterfaces
  | .dualActive => .flag s.concurrency.dualActive

/-- One use of a store. -/
inductive Use
  | ask (request : Request)
  | lookUp (lookup : Lookup)
  deriving DecidableEq, Repr

/-- What comes of a use. -/
inductive Answer
  | reply (reply : Reply)
  | found (found : Found)
  deriving DecidableEq, Repr

/-- Uses a store. -/
def use : Use → Step Answer
  | .ask request => do pure (.reply (← reply request))
  | .lookUp lookup => do pure (.found ((← get).store.lookUp lookup))

/-- What happens to a running store: it is used, with other calls made to fail by then,
or the files are changed by others. -/
inductive Event
  | used (faults : Faults) (use : Use)
  | disturbed (change : FileSystem → FileSystem)

/-- A running store after something happened. -/
def Running.afterEvent (r : Running) : Event → Running
  | .used faults use => (r.withFaults faults).after (Store.use use)
  | .disturbed change => { r with world := { r.world with files := change r.world.files } }

/-- A running store after a sequence of events. -/
def Running.afterEvents (r : Running) (events : List Event) : Running :=
  events.foldl Running.afterEvent r

/-- What comes of a use, or how it fails. -/
def Running.outcome (r : Running) (use : Use) : Except Failure Answer :=
  match Store.use use r with
  | .ok answer _ => .ok answer
  | .error e _ => .error e

/-- The uses over a sequence of events, and what comes of each. -/
def Running.history (r : Running) : List Event → List (Use × Except Failure Answer)
  | [] => []
  | event :: events =>
    let later := (r.afterEvent event).history events
    match event with
    | .used faults use => (use, (r.withFaults faults).outcome use) :: later
    | .disturbed _ => later

end Store
end Hotspot
