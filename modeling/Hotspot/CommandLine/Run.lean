/-
# Carrying out a command line

A command line is read, and its command is carried out on a store, except for
`validate`, which needs none. The answer is JSON, and the exit code tells
whether a configuration that was handed in is acceptable.

| ending | exit code |
| --- | --- |
| done, or help | 0 |
| a configuration was rejected | 2 |
| the command line does not fit | 2 |
-/

import Hotspot.CommandLine.Command
import Hotspot.Config.Description
import Hotspot.Overlay.File
import Hotspot.Settings
import Hotspot.Store.Basic

namespace Hotspot
namespace CommandLine

/-- The exit code of what went well. -/
def exitDone : Nat := 0
/-- The exit code of what was rejected or not understood. -/
def exitInvalid : Nat := 2

/-- The answer of a command, and its exit code. -/
structure Answer where
  code : Nat := exitDone
  json : Json
  deriving Repr

/-! ## Answers -/

/-- The answer with a configuration. -/
def configAnswer (c : Config) (reveal : Bool) : Answer where
  json := c.describe reveal

/-- The answer to a configuration that was set. -/
def setAnswer (written : Bool) (config : Json) : Answer where
  json := .object [("written", .bool written), ("config", config)]

/-- The answer to a configuration that was not set. -/
def rejectedAnswer (v : Config.Violation) : Answer where
  code := exitInvalid
  json := .object [("written", .bool false), ("error", .text v.rule.name)]

/-- The answer to a configuration that was to be checked. -/
def checkAnswer (v : Option Config.Violation) : Answer where
  code := if v.isNone then exitDone else exitInvalid
  json := .object [("valid", .bool v.isNone),
    ("error", Config.optionalText (v.map fun v => v.rule.name))]

/-- The concurrency as JSON. -/
def concurrencyJson (c : Concurrency) : Json :=
  .object [
    ("sta_sap_concurrent_enabled", .bool c.stationAllowed),
    ("sap_channel", .int c.channel),
    ("dual_sap_supported", .bool c.dualSupported),
    ("dual_sap_interfaces", .array (c.dualInterfaces.map .text)),
    ("dual_sap_active", .bool c.dualActive)]

/-- The interface roles as JSON. -/
def rolesJson (r : Roles) : Json :=
  .object [
    ("sap_interface", Config.optionalText r.serving),
    ("bridge_interface", Config.optionalText r.bridge),
    ("sap_new_interface_required", .bool r.needsNew)]

/-- The channels as JSON. -/
def channelsJson : Option (List Int) → Json
  | none => .null
  | some channels => .array (channels.map .int)

/-- The answer with what does not change while a store runs. -/
def concurrencyAnswer (s : Store) : Answer where
  json := .object [
    ("concurrency", concurrencyJson s.concurrency),
    ("interfaces", rolesJson s.roles),
    ("allowed_2g_channels", channelsJson s.channels)]

/-! ## Commands -/

/-- What is logged of a configuration that was not set. -/
def rejectedRecord (v : Config.Violation) : Log.Record where
  level := Log.Level.warning
  logger := "softap_configd.main"
  template := "softap_config_rejected"
  extras := [("rule", .text v.rule.name), ("op", .text Store.Operation.set.name)]

/-- The active configuration as it is shown after a request: a channel that is
none is an empty list. -/
def Request.shown (request : Request) (active : Config) : Json :=
  match request.channel, active.redacted with
  | none, .object members => .object (Json.Members.set "ap_channel" (.array []) members)
  | _, json => json

/-- Sets the configuration of a request. Where a number is wanting, the backup
service is told all the same. -/
def setRequest (request : Request) : Store.Step Answer := do
  if request.lacksNumber then
    Store.inWorld World.notifyBackup
    throw .noNumber
  let written ← Store.set (some request.config)
  pure (setAnswer written (request.shown (← get).store.config))

/-- Carries out a command on a store. -/
def onStore : Command → Store.Step Answer
  | .view reveal => do pure (configAnswer (← get).store.config reveal)
  | .reset => do
    let written ← Store.set none
    pure (setAnswer written (← get).store.config.redacted)
  | .set request => do
    match ← Store.inWorld (Store.check request.config) with
    | some v =>
      Store.inWorld (World.log [rejectedRecord v])
      pure (rejectedAnswer v)
    | none => setRequest request
  | .validate request => do pure (checkAnswer (← Store.inWorld (Store.check request.config)))
  | .concurrency => do pure (concurrencyAnswer (← get).store)
  | .localOnly reveal => do pure (configAnswer (← Store.localOnly) reveal)

/-- Starts the store of an invocation. -/
def startStore (settings : Settings) (i : Invocation) : Action Store := do
  let overlayFile := Settings.pathOr settings.overlayFile i.overlayFile
  let w ← get
  let (overlay, records) ← World.orFail .overlay (Overlay.load w.depth w.files overlayFile)
  World.log records
  Store.start overlay (Settings.pathOr settings.configFile i.configFile)
    (Settings.pathOr settings.concurrencyFile i.concurrencyFile)

/-- Carries out the command of an invocation. -/
def carryOut (settings : Settings) (i : Invocation) : Action Answer :=
  match i.command with
  | .validate request => do pure (checkAnswer (← Store.check request.config))
  | command => do
    let store ← startStore settings i
    fun w =>
      match onStore command ⟨store, w⟩ with
      | .ok answer r => .ok answer r.world
      | .error e r => .error e r.world

/-! ## The program -/

/-- How a run of the program ends. -/
inductive Ending
  | stopped (stop : Stop)
  | failed (e : Failure)
  | answered (answer : Answer)
  deriving Repr

/-- A run of the program: how it ends, what it logs, and what it leaves. -/
structure Outcome where
  ending : Ending
  records : List Log.Record := []
  world : World

/-- Carries out an invocation. The log holds what its level lets through. -/
def runInvocation (env : Environment) (i : Invocation) (w : World) : Outcome :=
  match Log.Level.resolve i.logLevel (env Settings.logLevelName) with
  | .other value => { ending := .failed (.level value), world := w }
  | .level level =>
    let started : World := { w with records := [], backup := { logs := true } }
    match carryOut (Settings.ofEnvironment env) i started with
    | .ok answer world =>
      { ending := .answered answer, records := Log.atLevel level world.records, world }
    | .error e world =>
      { ending := .failed e, records := Log.atLevel level world.records, world }

/-- Runs the program on a command line. -/
def run (env : Environment) (arguments : List Text) (w : World) : Outcome :=
  match Invocation.ofArguments arguments with
  | .error stop => { ending := .stopped stop, world := w }
  | .ok i => runInvocation env i w

/-- The text of an answer. -/
def Answer.text (a : Answer) : Text :=
  a.json.write Json.indented ++ [0x0A]

end CommandLine
end Hotspot
