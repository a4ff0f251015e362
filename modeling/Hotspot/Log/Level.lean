/-
# Log levels

A level is a number; the standard ones have names. The level to log at is given
by name, by the caller or else by the environment, and is `INFO` where the name
is unknown. Two more names are known and stand for no level; logging at what
they stand for is refused.

| name | stands for |
| --- | --- |
| `BASIC_FORMAT` | a format |
| `_STYLES` | a table of the styles of formats |
-/

import Hotspot.Text.Blank
import Hotspot.Text.Quoted
import Hotspot.Text.UpperCase

namespace Hotspot
namespace Log

/-- A log level. -/
abbrev Level := Int

namespace Level

/-- No level of its own: everything is logged. -/
def notset : Level := 0
/-- For whoever looks for a fault. -/
def debug : Level := 10
/-- For the course of events. -/
def info : Level := 20
/-- For what may be wrong. -/
def warning : Level := 30
/-- For what went wrong. -/
def error : Level := 40
/-- For what cannot go on. -/
def critical : Level := 50

/-- The levels by name. -/
def named : List (Text × Level) :=
  [("CRITICAL", critical), ("FATAL", critical), ("ERROR", error), ("WARNING", warning),
    ("WARN", warning), ("INFO", info), ("DEBUG", debug), ("NOTSET", notset)]

/-- The name of a level: the first one in the list, or its number. -/
def name (level : Level) : Text :=
  match named.find? (·.2 = level) with
  | some (name, _) => name
  | none => "Level " ++ Text.ofInt level

/-- What a name stands for that is no level. -/
inductive NoLevel
  | format (format : Text)
  | table (shown : Text)
  deriving DecidableEq, Repr

/-- The wording of the refusal to log at what is no level. -/
def NoLevel.message : NoLevel → Text
  | .format t => "Unknown level: " ++ t.quoted
  | .table t => "Level not an integer or a valid string: " ++ t

/-- What a name stands for. -/
inductive Setting
  | level (level : Level)
  | other (value : NoLevel)
  deriving DecidableEq, Repr

/-- The format of the name `BASIC_FORMAT`. -/
def basicFormat : Text := "%(levelname)s:%(name)s:%(message)s"

/-- The table of the name `_STYLES`. -/
def styles : Text :=
  "\x7b'%': (<class 'logging.PercentStyle'>, " ++ basicFormat.quoted ++
    "), '\x7b': (<class 'logging.StrFormatStyle'>, " ++
    "'\x7blevelname\x7d:\x7bname\x7d:\x7bmessage\x7d'), " ++
    "'$': (<class 'logging.StringTemplateStyle'>, " ++
    "'$\x7blevelname\x7d:$\x7bname\x7d:$\x7bmessage\x7d')\x7d"

/-- The names that stand for no level. -/
def others : List (Text × NoLevel) :=
  [("BASIC_FORMAT", .format basicFormat), ("_STYLES", .table styles)]

/-- The text that is there and not empty. -/
def given (t : Option Text) : Option Text :=
  t.filter (· ≠ [])

/-- What the name of the caller stands for, or else that of the environment. -/
def resolve (caller environment : Option Text) : Setting :=
  let name := ((given caller).or (given environment)).getD "INFO"
  match name.trim.upperAscii? with
  | none => .level info
  | some upper =>
    match others.lookup upper with
    | some value => .other value
    | none => .level ((named.lookup upper).getD info)

end Level
end Log
end Hotspot
