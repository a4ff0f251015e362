/-
# Overlays on file

The overlay file is JSON in UTF-8, with any of the three line ends. Where there
is none, or one that holds no object, the standard overlay is in force; one
that cannot be read is reported. Only one with too many values inside each other
leaves no overlay at all; how many there may be depends on who reads it.
-/

import Hotspot.FileSystem.Basic
import Hotspot.Json.Reader
import Hotspot.Overlay.Basic
import Hotspot.Text.Lines

namespace Hotspot
namespace Overlay

/-- Why an overlay file cannot be read. -/
inductive FileError
  | io (e : IoError)
  | encoding (fault : Utf8.Fault)
  /-- The text is no JSON. -/
  | json (text : Text) (e : Json.ReadError)
  deriving DecidableEq, Repr

/-- The wording of an error. -/
def FileError.message : FileError → Text
  | .io e => e.message
  | .encoding fault => fault.message
  | .json text e => e.message text

/-- The value in the file at a path, in which so many values may be inside each other. -/
def fileValue (depth : Nat) (fs : FileSystem) (p : Path) : Except FileError Json := do
  let bytes ← (fs.read p).mapError .io
  let text ← (Utf8.decode bytes).mapError .encoding
  let text := Text.unixLines text
  (Json.readWithin depth text).mapError (.json text)

/-- What is logged of a file that cannot be read. -/
def unreadable (p : Path) (e : FileError) : Log.Record where
  level := Log.Level.warning
  logger := "softap_configd.provider"
  template := "overlay_unreadable " ++ e.message
  extras := [("path", .text p.text)]

/-- Why no overlay comes of a file. -/
inductive LoadError
  /-- A call that looks for the file. -/
  | io (e : IoError)
  /-- An array or an object inside too many others. -/
  | tooDeep (shape : Json.Shape)
  deriving DecidableEq, Repr

/-- The wording of an error. -/
def LoadError.message : LoadError → Text
  | .io e => e.message
  | .tooDeep shape => shape.tooDeepMessage

/-- The overlay of the file at a path, and what is logged. -/
def load (depth : Nat) (fs : FileSystem) (p : Path) :
    Except LoadError (Overlay × List Log.Record) := do
  if ← (fs.exists? p).mapError .io then
    match fileValue depth fs p with
    | .ok value => pure (ofMembers (membersOf value), [])
    | .error (.json _ (.tooDeep shape)) => throw (.tooDeep shape)
    | .error e => pure (ofMembers [], [unreadable p e])
  else pure (ofMembers [], [])

end Overlay
end Hotspot
