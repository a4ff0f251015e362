/-
# Log records

A record is written as one line of JSON: when, at what level, by what logger,
the message, the extras the line has fields for, and an exception. An extra
that is a secret is masked unless it is empty. An extra of the name of one of
the record's own parts takes the place of that part.

| name | part |
| --- | --- |
| `created` | the time |
| `levelno`, `levelname` | the level |
| `name` | the logger |
| `msg`, `args` | the template and the arguments |
| `exc_info` | the exception |
-/

import Hotspot.Json.Writer
import Hotspot.Log.Exception
import Hotspot.Log.Level
import Hotspot.Log.Template
import Hotspot.Log.Timestamp

namespace Hotspot
namespace Log

/-- A log record. Without arguments the template is the message. -/
structure Record where
  level : Level
  logger : Text
  template : Text
  arguments : List Text := []
  exception : Option Exception := none
  extras : List (Text × Value) := []
  deriving Repr

/-- Why a record has no message. -/
inductive MessageError
  /-- An extra has taken the place of what makes the message. -/
  | replaced (kind : Text)
  /-- The template is a value with too many digits. -/
  | tooManyDigits
  /-- The template cannot be filled. -/
  | template (e : Template.FillError)
  deriving DecidableEq, Repr

/-- The wording of an error. -/
def MessageError.message : MessageError → Text
  | .replaced kind => "'" ++ kind ++ "' object is not callable"
  | .tooManyDigits => tooManyDigitsWritten
  | .template e => e.message

namespace Record

/-- The extra of a name. -/
def extra? (r : Record) (name : Text) : Option Value :=
  r.extras.lookup name

/-- A part of a record, or the extra in its place. -/
def part (r : Record) (name : Text) (own : Value) : Value :=
  (r.extra? name).getD own

/-- The name of the level of a record. -/
def levelName (r : Record) : Value :=
  r.part "levelname" (.text r.level.name)

/-- The name of the logger of a record. -/
def loggerName (r : Record) : Value :=
  r.part "name" (.text r.logger)

/-- The template of a record. -/
def shownTemplate (r : Record) : Value :=
  r.part "msg" (.text r.template)

/-- What the template of a record is filled with, unless it is the message. -/
def supply? (r : Record) : Option Template.Supply :=
  match r.extra? "args" with
  | some value => if value.truthy then some (.ofValue value) else none
  | none => if r.arguments.isEmpty then none else some (.ofTexts r.arguments)

/-- The message of a record. -/
def message (r : Record) : Except MessageError Text :=
  match r.extra? "getMessage" with
  | some value => .error (.replaced value.kindName)
  | none =>
    match r.shownTemplate.shown?, r.supply? with
    | none, _ => .error .tooManyDigits
    | some template, some supply => (Template.fill template supply).mapError .template
    | some template, none => .ok template

/-- The text of the exception of a record, if it tells of any. -/
def exceptionText? (r : Record) : Except Exception.Fault (Option Text) :=
  match r.extra? "exc_info" with
  | some value => if value.truthy then some <$> Exception.textOfValue value else .ok none
  | none => .ok (r.exception.map Exception.text)

/-- What a record that is made at a time holds under a name: an extra, or one of
its own parts. -/
def attribute? (r : Record) (time : Value) (name : Text) : Option Value :=
  if name = "created" then some (r.part name time)
  else if name = "levelno" then some (r.part name (.json (.int r.level)))
  else if name = "levelname" then some r.levelName
  else if name = "name" then some r.loggerName
  else if name = "msg" then some r.shownTemplate
  else if name = "args" then some (r.part name (.json (.array (r.arguments.map .text))))
  else if name = "exc_info" then some (r.part name (r.exception.elim .null Exception.value))
  else r.extra? name

end Record

/-- The extras a line has fields for, in the order of the line. -/
def fields : List Text :=
  ["correlation_id", "op", "path", "field", "rule", "kind", "state", "pre_shared_key"]

/-- The extras that are secret. -/
def secretFields : List Text := ["pre_shared_key"]

/-- What stands for a secret. -/
def mask : Text := "********"

/-- The value of an extra as it is written. -/
def masked (name : Text) (value : Value) : Json :=
  if secretFields.contains name && value.truthy then .text mask else value.written

/-- Adds the extras of a record that are in a list of fields. -/
def addFields (r : Record) (time : Value) (fields : List Text) (line : Json.Members) :
    Json.Members :=
  fields.foldl (fun line name =>
    match r.attribute? time name with
    | some value => Json.Members.set name (masked name value) line
    | none => line) line

/-- What a record says, without when. -/
def statement (r : Record) (message : Text) (before : Json.Members := []) : Json.Members :=
  let members : Json.Members :=
    [("level", r.levelName.written), ("logger", r.loggerName.written), ("msg", .text message)]
  before ++ members

/-- Why a record has no line. -/
inductive LineError
  /-- Its time has no timestamp. -/
  | time (e : TimeError)
  /-- It has no message. -/
  | message (e : MessageError)
  /-- Its exception cannot be told. -/
  | exception (e : Exception.Fault)
  /-- An extra has too many digits to be written. -/
  | tooManyDigits
  deriving DecidableEq, Repr

/-- The wording of an error. -/
def LineError.wording : LineError → Text
  | .time e => e.message
  | .message e => e.message
  | .exception e => e.message
  | .tooManyDigits => tooManyDigitsWritten

/-- The members of the line of a record that is made at a time. -/
def lineMembers (fields : List Text) (time : Value) (r : Record) :
    Except LineError Json.Members := do
  let stamp ← (timestamp? (r.part "created" time)).mapError .time
  let message ← r.message.mapError .message
  let members := addFields r time fields (statement r message [("ts", .text stamp)])
  match ← r.exceptionText?.mapError .exception with
  | some t => pure (Json.Members.set "exc" (.text t) members)
  | none => pure members

/-- The line of a record that is made at a time. -/
def line (fields : List Text) (time : Value) (r : Record) : Except LineError Text := do
  let j := Json.object (← lineMembers fields time r)
  if j.isWritable then pure (j.write Json.compact) else throw .tooManyDigits

/-- The records that are written at a level. Those at no level, or below that,
never are. -/
def atLevel (level : Level) (records : List Record) : List Record :=
  records.filter fun r => level ≤ r.level ∧ Level.notset < r.level

end Log
end Hotspot
