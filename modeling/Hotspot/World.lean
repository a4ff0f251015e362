/-
# The world around a store

What a store acts on: the files, what stands in the way of writing and reading them,
the random inputs, the backup service and the log. An action that fails keeps what it has
done up to there.
-/

import Hotspot.Backup
import Hotspot.Channels
import Hotspot.Config.File
import Hotspot.Config.Generated
import Hotspot.Overlay.File

namespace Hotspot

/-- The world around a store. -/
structure World where
  files : FileSystem
  faults : Faults := Faults.none
  /-- How many values of an overlay may be inside each other. -/
  depth : Nat := Json.depthLimit
  entropy : Entropy
  backup : Backup := {}
  /-- The log, oldest record first. -/
  records : List Log.Record := []

/-- What a caller of a store sees fail. -/
inductive Failure
  /-- A random input. -/
  | draw (message : Text)
  /-- A member of the overlay that has no items. -/
  | notAList (e : NotAList)
  /-- A path that has no file name. -/
  | name (fault : Path.NameFault)
  /-- A path that ends in no name. -/
  | unnamed (path : Path)
  /-- A path with too many missing directories. -/
  | tooDeep
  /-- A number of a configuration or of the overlay is too long to be shown. -/
  | unwritable
  /-- A number of a configuration is none. -/
  | noNumber
  /-- A number of the concurrency template is too long. -/
  | tooLong (digits : Nat)
  /-- A call that looks for a file. -/
  | io (e : IoError)
  /-- An overlay file. -/
  | overlay (e : Overlay.LoadError)
  /-- A log level that is none. -/
  | level (value : Log.Level.NoLevel)
  deriving DecidableEq, Repr

/-- The wording of a failure. -/
def Failure.message : Failure → Text
  | .draw message => message
  | .notAList e => e.message
  | .name fault => fault.message
  | .unnamed path => Config.unnamedMessage path
  | .tooDeep => Config.tooDeepMessage
  | .unwritable => tooManyDigitsWritten
  | .noNumber => "int() argument must be a string, a bytes-like object or a real number, not 'list'"
  | .tooLong digits => tooManyDigitsRead digits
  | .io e => e.message
  | .overlay e => e.message
  | .level value => value.message

/-- The failure to read a list of the overlay. -/
def Failure.ofListError : ListError → Failure
  | .notAList e => .notAList e
  | .tooManyDigits => .unwritable

/-- Something done in the world. -/
abbrev Action := EStateM Failure World

namespace World

/-- Logs records. -/
def log (records : List Log.Record) : Action Unit :=
  modify fun w => { w with records := w.records ++ records }

/-- Tells the backup service of a change. -/
def notifyBackup : Action Unit := do
  modify fun w => { w with backup := w.backup.notify }
  log (← get).backup.records

/-- Draws a configuration. -/
def draw (generator : EStateM Text Entropy Config) : Action Config := fun w =>
  match generator w.entropy with
  | .ok c entropy => .ok c { w with entropy }
  | .error message entropy => .error (.draw message) { w with entropy }

/-- Draws a configuration from a name template, if that can be shown. -/
def drawFrom (template : Option Text) (generator : Text → EStateM Text Entropy Config) :
    Action Config :=
  match template with
  | some template => draw (generator template)
  | none => throw .unwritable

/-- Writes a configuration to a path; what went wrong, if something did. -/
def write (p : Path) (c : Config) : Action (Option Config.WriteError) := fun w =>
  match Config.store w.faults p c w.files with
  | .ok () files => .ok none { w with files }
  | .error e files => .ok (some e) { w with files }

/-- A value, or the failure that its error amounts to. -/
def orFail (wrap : ε → Failure) : Except ε α → Action α
  | .ok a => pure a
  | .error e => throw (wrap e)

end World
end Hotspot
