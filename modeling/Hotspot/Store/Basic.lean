/-
# The store

The store owns the active configuration. It takes it from a file when it
starts, and makes up a fresh one where there is none; afterwards the memory
follows the caller, and the file follows the memory as far as it can be
written.

| state | the active configuration |
| --- | --- |
| `loaded` | is the one on file |
| `default_generated` | was made up, and is not on file |
| `persisted` | was made up, and is on file |
| `active` | was set since |

What the overlay and the concurrency template say is read once, at the start.
-/

import Hotspot.Concurrency
import Hotspot.Config.Validation
import Hotspot.Interface
import Hotspot.Overlay.Basic
import Hotspot.World

namespace Hotspot

/-- Where the active configuration comes from. -/
inductive Origin
  | loaded
  | defaultGenerated
  | persisted
  | active
  deriving DecidableEq, Repr

/-- The name of an origin. -/
def Origin.name : Origin → Text
  | .loaded => "loaded"
  | .defaultGenerated => "default_generated"
  | .persisted => "persisted"
  | .active => "active"

/-- A running store. -/
structure Store where
  path : Path
  overlay : Overlay
  config : Config
  origin : Origin
  channels : Option (List Int)
  roles : Roles
  concurrency : Concurrency
  deriving Repr

namespace Store

/-- Why a configuration is written. -/
inductive Operation
  /-- There was none. -/
  | init
  /-- A fresh one was asked for. -/
  | reset
  /-- It was handed in. -/
  | set
  deriving DecidableEq, Repr

/-- The name of an operation. -/
def Operation.name : Operation → Text
  | .init => "init"
  | .reset => "reset"
  | .set => "set"

/-- The logger of the store. -/
def logger : Text := "softap_configd.store"

/-! ## Writing -/

/-- What is logged of a configuration that was written. -/
def writtenRecord (p : Path) (op : Operation) : Log.Record where
  level := Log.Level.info
  logger := logger
  template := "softap_config_written"
  extras := [("path", .text p.text), ("op", .text op.name)]

/-- What is logged of a configuration that was not written. -/
def notWrittenRecord (e : Config.NotWritten) (op : Operation) : Log.Record where
  level := Log.Level.error
  logger := logger
  template := "softap_config_write_failed " ++ e.reason
  extras := [("path", .text e.path), ("op", .text op.name)]

/-- The report of a failure of the codec or of a call. The others are failures of
the caller. -/
def report : Config.WriteError → Except Failure Text
  | .encode (.unwritable _) => .error .unwritable
  | .encode e => .ok ("EncodeError: " ++ e.message)
  | .unnamed path => .error (.unnamed path)
  | .name fault => .error (.name fault)
  | .tooDeep => .error .tooDeep
  | .io e => .ok e.report

/-- Writes a configuration, and tells whether it is on file. -/
def save (p : Path) (op : Operation) (c : Config) : Action Bool := do
  match ← World.write p c with
  | none =>
    World.log [writtenRecord p op]
    pure true
  | some e =>
    let reason ← World.orFail id (report e)
    World.log [notWrittenRecord ⟨p.text, reason⟩ op]
    pure false

/-! ## Starting -/

/-- What is logged of a configuration that was loaded. -/
def loadedRecord (p : Path) : Log.Record where
  level := Log.Level.info
  logger := logger
  template := "softap_config_loaded"
  extras := [("path", .text p.text), ("state", .text Origin.loaded.name)]

/-- What is logged where there is no configuration to load. -/
def fallbackRecord (p : Path) (kind : Config.FailureKind) (detail : Text) : Log.Record where
  level := Log.Level.warning
  logger := logger
  template := "softap_config_fallback_to_default " ++ kind.message (some detail)
  extras := [("path", .text p.text), ("kind", .text kind.name)]

/-- What is logged of the channels. -/
def channelsRecord (channels : Option (List Int)) : Log.Record where
  level := Log.Level.debug
  logger := logger
  template := "allowed_2g_channels " ++ Channels.shown channels

/-- A fresh configuration, written if it can be. -/
def fallBack (o : Overlay) (p : Path) : Action (Config × Origin) := do
  let c ← World.drawFrom o.template? Config.generateDefault
  if ← save p .init c then pure (c, .persisted) else pure (c, .defaultGenerated)

/-- The configuration to start with. -/
def startConfig (o : Overlay) (p : Path) : Action (Config × Origin) := do
  match Config.load (← get).files p with
  | .ok c =>
    World.log [loadedRecord p]
    pure (c, .loaded)
  | .error e =>
    let (kind, detail) ← World.orFail .name e.kindDetail
    World.log [fallbackRecord p kind detail]
    fallBack o p

/-- The channels of an overlay. -/
def startChannels (o : Overlay) : Action (Option (List Int)) := do
  World.log o.channelRecords
  let channels ← World.orFail .ofListError o.channels
  World.log [channelsRecord channels]
  pure channels

/-- The concurrency of an overlay and a template. -/
def startConcurrency (o : Overlay) (template : Path) : Action Concurrency := do
  let dualInterfaces ← World.orFail .ofListError o.dualInterfaces
  let initial : Concurrency := { dualSupported := o.dualSupported, dualInterfaces }
  let reading ← World.orFail .io (Concurrency.load (← get).files template initial)
  World.log reading.records
  World.orFail (fun e => .tooLong e.digits) reading.result

/-- Starts a store on the configuration at a path. -/
def start (o : Overlay) (p template : Path) : Action Store := do
  let (config, origin) ← startConfig o p
  let channels ← startChannels o
  let candidates ← World.orFail .ofListError o.candidates
  let concurrency ← startConcurrency o template
  pure { path := p, overlay := o, config, origin, channels
         roles := Roles.ofCandidates candidates, concurrency }

/-! ## Setting -/

/-- A store and the world around it. -/
structure Running where
  store : Store
  world : World

/-- Something done with a running store. -/
abbrev Step := EStateM Failure Running

/-- Something done in the world of a running store. -/
def inWorld (action : Action α) : Step α := fun r =>
  match action r.world with
  | .ok a world => .ok a { r with world }
  | .error e world => .error e { r with world }

/-- Changes the store. -/
def change (f : Store → Store) : Step Unit :=
  modify fun r => { r with store := f r.store }

/-- The configuration to set, and what is made of it. -/
def incoming (o : Overlay) : Option Config → Action (Config × Operation)
  | none => do pure (← World.drawFrom o.template? Config.generateDefault, .reset)
  | some c => pure (c, .set)

/-- Makes a configuration the active one, and writes it. -/
def replace (c : Option Config) : Step Bool := do
  let (config, op) ← inWorld (incoming (← get).store.overlay c)
  change fun s => { s with config }
  let written ← inWorld (save (← get).store.path op config)
  change fun s => { s with origin := .active }
  pure written

/-- Sets the active configuration, or a fresh one if none is given, and tells
whether it is on file. The backup service is told in any case. -/
def set (c : Option Config) : Step Bool := fun r =>
  let notify (world : World) : World :=
    match World.notifyBackup world with
    | .ok _ world | .error _ world => world
  match replace c r with
  | .ok written r => .ok written { r with world := notify r.world }
  | .error e r => .error e { r with world := notify r.world }

/-- Checks a configuration, and logs what is wrong with it. -/
def check (c : Config) : Action (Option Config.Violation) := do
  World.log (c.check.toList.map Config.Violation.record)
  pure c.check

/-- Checks the name and the security of a configuration, and logs what is wrong with
either. -/
def collect (c : Config) : Action (List Config.Violation) := do
  World.log (c.violations.map Config.Violation.record)
  pure c.violations

/-- Sets whether two hotspots are running. -/
def setDualActive (s : Store) (active : Bool) : Store :=
  { s with concurrency := { s.concurrency with dualActive := active } }

/-- A configuration for a hotspot that is never stored. -/
def localOnly : Step Config := do
  inWorld (World.drawFrom (← get).store.overlay.localTemplate? Config.generateLocalOnly)

end Store
end Hotspot
