/-
# Values in the log

A record holds JSON values and paths. A path is written as its text; where it is
quoted it says what it is. A value is shown unless an integer in it has too many
digits.

| value | written | shown | quoted |
| --- | --- | --- | --- |
| a text | itself | itself | between quotes |
| another JSON value | itself | its text | its text |
| the path `a//b/` | the text `a/b` | `a/b` | `PosixPath('a/b')` |
-/

import Hotspot.FileSystem.Path
import Hotspot.Json.Basic

namespace Hotspot
namespace Log

/-- A value in the log. -/
inductive Value
  | json (j : Json)
  | path (p : Path)
  deriving Repr

namespace Value

/-- A text in the log. -/
def text (t : Text) : Value := .json (.text t)

/-- No value. -/
def null : Value := .json .null

/-- What is written of a value. -/
def written : Value → Json
  | .json j => j
  | .path p => .text p.text

/-- A value that counts as set; a path always does. -/
def truthy : Value → Bool
  | .json j => j.truthy
  | .path _ => true

/-- The word for the kind of a value. -/
def kindName : Value → Text
  | .json j => j.kindName
  | .path _ => Path.kindName

/-- A value by itself. -/
def shown? : Value → Option Text
  | .json j => j.shown?
  | .path p => some p.text

/-- A value where it has to be told from others. -/
def quoted? : Value → Option Text
  | .json j => j.quoted?
  | .path p => some p.quoted

end Value
end Log
end Hotspot
