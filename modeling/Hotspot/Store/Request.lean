/-
# Requests to a store

What can be asked of a running store, and what it replies. Over a sequence of
requests other calls may be made to fail before each one.

| request | reply | changes |
| --- | --- | --- |
| `get` | the active configuration | nothing |
| `set` | whether it is on file | the configuration, the file, the backup service |
| `validate` | the first broken rule | nothing |
| `localOnly` | a fresh configuration | the random inputs |
| `setDualActive` | nothing | the concurrency |
-/

import Hotspot.Store.Basic

namespace Hotspot
namespace Store

/-- What is asked of a running store. -/
inductive Request
  | get
  /-- Sets a configuration, or a fresh one. -/
  | set (config : Option Config)
  | validate (config : Config)
  | localOnly
  | setDualActive (active : Bool)
  deriving DecidableEq, Repr

/-- What a store replies. -/
inductive Reply
  | config (config : Config)
  /-- A configuration was set, and is on file or not. -/
  | written (onFile : Bool)
  | checked (violation : Option Config.Violation)
  | done
  deriving DecidableEq, Repr

/-- Replies to a request. -/
def reply : Request → Step Reply
  | .get => do pure (.config (← get).store.config)
  | .set config => do pure (.written (← set config))
  | .validate config => do pure (.checked (← inWorld (check config)))
  | .localOnly => do pure (.config (← localOnly))
  | .setDualActive active => do
    change fun s => s.setDualActive active
    pure .done

/-- A running store from now on with other calls made to fail. -/
def Running.withFaults (r : Running) (faults : Faults) : Running :=
  { r with world := { r.world with faults } }

/-- What a step leaves, whether or not it fails. -/
def Running.after (r : Running) (step : Step α) : Running :=
  match step r with
  | .ok _ r | .error _ r => r

/-- What a sequence of requests leaves. -/
def Running.afterAll (r : Running) (requests : List (Faults × Request)) : Running :=
  requests.foldl (fun r (faults, request) => (r.withFaults faults).after (reply request)) r

end Store
end Hotspot
