/-
# Commands

The commands of the program and the switches they take.

| command | switches |
| --- | --- |
| `show` | `--reveal-psk` |
| `reset` | |
| `set`, `validate` | `--ssid`, one of `--open` and `--psk`, `--band`, `--channel` |
| `concurrency` | |
| `local-only` | `--reveal-psk` |

Before the command, switches name the files and the log level.
-/

import Hotspot.CommandLine.Reading
import Hotspot.Config.Binary

namespace Hotspot
namespace CommandLine

/-- The name of the program. -/
def program : Text := "softap-configd"

namespace Switch

/-- Asks for help. -/
def help : Switch := { names := ["-h", "--help"], kind := .help }
/-- The place of the configuration. -/
def configFile : Switch := { names := ["--config-file"], kind := .text }
/-- The place of the concurrency template. -/
def concurrencyFile : Switch := { names := ["--concurrency-file"], kind := .text }
/-- The place of the overlay. -/
def overlayFile : Switch := { names := ["--overlay-file"], kind := .text }
/-- The log level. -/
def logLevel : Switch := { names := ["--log-level"], kind := .text }
/-- The key is shown. -/
def reveal : Switch := { names := ["--reveal-psk"], kind := .flag }
/-- The network name. -/
def ssid : Switch := { names := ["--ssid"], kind := .text, required := true }
/-- The network is open. -/
def openNetwork : Switch := { names := ["--open"], kind := .flag }
/-- The key. -/
def key : Switch := { names := ["--psk"], kind := .text }
/-- The band. -/
def band : Switch := { names := ["--band"], kind := .integer }
/-- The channel. -/
def channel : Switch := { names := ["--channel"], kind := .integer }

end Switch

/-- The commands by name. -/
inductive Verb
  | view
  | reset
  | set
  | validate
  | concurrency
  | localOnly
  deriving DecidableEq, Repr

namespace Verb

/-- The name of a command. -/
def name : Verb → Text
  | .view => "show"
  | .reset => "reset"
  | .set => "set"
  | .validate => "validate"
  | .concurrency => "concurrency"
  | .localOnly => "local-only"

/-- All commands. -/
def all : List Verb := [.view, .reset, .set, .validate, .concurrency, .localOnly]

/-- The command of a name. -/
def ofName? (t : Text) : Option Verb :=
  all.find? fun v => v.name = t

/-- The form of a command. -/
def form (v : Verb) : Form :=
  let program := program ++ " " ++ v.name
  match v with
  | .view | .localOnly => { program, switches := [Switch.help, Switch.reveal] }
  | .reset | .concurrency => { program, switches := [Switch.help] }
  | .set | .validate =>
    { program
      switches := [Switch.help, Switch.ssid, Switch.openNetwork, Switch.key, Switch.band,
        Switch.channel]
      rivals := [Switch.openNetwork, Switch.key] }

end Verb

/-- The form of the program. -/
def programForm : Form where
  program := program
  switches := [Switch.help, Switch.configFile, Switch.concurrencyFile, Switch.overlayFile,
    Switch.logLevel]
  commands := Verb.all.map Verb.name

/-- The configuration that is asked for. A text whose value was dropped is empty;
a number whose value was dropped is there but is none. -/
structure Request where
  ssid : Text
  /-- The key of a network that is not open. -/
  key : Option Text := none
  band : Option Int := some 0
  channel : Option Int := some 0
  deriving DecidableEq, Repr

namespace Request

/-- The request of a reading. -/
def ofReading (r : Reading) : Request where
  ssid := (r.text? Switch.ssid).getD []
  key := if r.has Switch.openNetwork then none else some ((r.text? Switch.key).getD [])
  band := r.integer? Switch.band 0
  channel := r.integer? Switch.channel 0

/-- The protection of a request: a network without a key is open. -/
def security (r : Request) : Security :=
  match r.key with
  | none => .openAccess
  | some _ => .wpa2Psk

/-- The configuration of a request, zero standing for a number that is none. -/
def config (r : Request) : Config :=
  Config.ofSecurity (some r.ssid) r.security r.key (r.band.getD 0) (r.channel.getD 0)

/-- The request cannot be written, for want of a number. The band is written
before the channel, so a band that is refused comes first. -/
def lacksNumber (r : Request) : Bool :=
  r.band.isNone || (r.channel.isNone && r.config.encode.isOk)

end Request

/-- A command with what is given to it. -/
inductive Command
  | view (reveal : Bool)
  | reset
  | set (request : Request)
  | validate (request : Request)
  | concurrency
  | localOnly (reveal : Bool)
  deriving DecidableEq, Repr

/-- The command of a reading. -/
def Command.ofReading (r : Reading) : Verb → Command
  | .view => .view (r.has Switch.reveal)
  | .reset => .reset
  | .set => .set (Request.ofReading r)
  | .validate => .validate (Request.ofReading r)
  | .concurrency => .concurrency
  | .localOnly => .localOnly (r.has Switch.reveal)

/-- A command line that was read. -/
structure Invocation where
  configFile : Option Text := none
  concurrencyFile : Option Text := none
  overlayFile : Option Text := none
  logLevel : Option Text := none
  command : Command
  deriving DecidableEq, Repr

/-- The command of a word and what follows it, and what nothing takes. -/
def readCommand (word : Text) (arguments : List Text) : Except Stop (Command × List Text) :=
  match Verb.ofName? word with
  | none => .error (.misuse program (.noCommand word programForm.commands))
  | some v => do
    let r ← v.form.reading arguments
    let r ← (v.form.complete r).mapError (.misuse v.form.program)
    pure (Command.ofReading r v, r.leftover)

/-- The invocation of a command line. -/
def Invocation.ofArguments (arguments : List Text) : Except Stop Invocation := do
  let r ← programForm.reading arguments
  match r.command with
  | none => .error (.misuse program (.missing (programForm.missing r)))
  | some (word, rest) =>
    let (command, leftover) ← readCommand word rest
    if r.leftover ++ leftover ≠ [] then
      .error (.misuse program (.unrecognized (r.leftover ++ leftover)))
    else
      pure {
        configFile := r.text? Switch.configFile
        concurrencyFile := r.text? Switch.concurrencyFile
        overlayFile := r.text? Switch.overlayFile
        logLevel := r.text? Switch.logLevel
        command }

end CommandLine
end Hotspot
