/-
# Configurations on file

A configuration is read from a path and written to one. Writing encodes it
first, so that one without bytes touches nothing, and replaces the file as a
whole.
-/

import Hotspot.Config.Binary
import Hotspot.FileSystem.Replace

namespace Hotspot
namespace Config

/-- Why no configuration can be read from a path. -/
inductive LoadError
  /-- The path has no file name. -/
  | name (fault : Path.NameFault)
  /-- The file cannot be read. -/
  | io (e : IoError)
  /-- Its bytes are no configuration. -/
  | decode (e : DecodeError)
  deriving DecidableEq, Repr

/-- The kind and the detail of a failed load. That the path has no file name is a
failure of another sort. -/
def LoadError.kindDetail : LoadError → Except Path.NameFault (FailureKind × Text)
  | .name fault => .error fault
  | .io e => .ok (.ioFailure, e.report)
  | .decode e => .ok (e.kind, e.detail)

/-- Reads the configuration at a path. -/
def load (fs : FileSystem) (p : Path) : Except LoadError Config :=
  match p.nameFault? with
  | some fault => .error (.name fault)
  | none =>
    match fs.read p with
    | .error e => .error (.io e)
    | .ok bytes => (decode bytes).mapError .decode

/-- Why a configuration is not written. -/
inductive WriteError
  /-- It has no bytes. -/
  | encode (e : EncodeError)
  /-- The path ends in no name. -/
  | unnamed (path : Path)
  /-- The path has no file name. -/
  | name (fault : Path.NameFault)
  /-- Too many directories are missing, one inside the other. -/
  | tooDeep
  /-- A call failed. -/
  | io (e : IoError)
  deriving DecidableEq, Repr

/-- A configuration that was not written. -/
structure NotWritten where
  path : Text
  reason : Text
  deriving DecidableEq, Repr

/-- The wording of the failure. -/
def NotWritten.message (e : NotWritten) : Text :=
  "persist_failed path=" ++ e.path ++ " reason=" ++ e.reason

/-- The wording of the refusal of a path that ends in no name. -/
def unnamedMessage (path : Path) : Text :=
  path.quoted ++ " has an empty name"

/-- The wording of the refusal to make so many directories. -/
def tooDeepMessage : Text :=
  "maximum recursion depth exceeded while calling a Python object"

/-- Calls as part of a writing. -/
def asWrite (calls : FileSystem.Calls α) : EStateM WriteError FileSystem α :=
  EStateM.adaptExcept .io calls

/-- Refuses a path that has no file name. -/
def requireName (p : Path) : EStateM WriteError FileSystem Unit :=
  match p.nameFault? with
  | some fault => throw (.name fault)
  | none => pure ()

/-- Makes the directories along a path unless they are there. Where there is no room for
so many, none is made. -/
def ensureDirectories (faults : Faults) (p : Path) : EStateM WriteError FileSystem Unit := do
  let (place, way) := (← get).placesAlong p
  if !faults.hasRoomFor (FileSystem.nesting faults place way) then throw .tooDeep
  let _ ← asWrite (FileSystem.ensureDirectory faults place way)

/-- Writes a configuration to a path. -/
def store (faults : Faults) (p : Path) (c : Config) : EStateM WriteError FileSystem Unit := do
  match c.encode with
  | .error e => throw (.encode e)
  | .ok bytes =>
    match p.addSuffix? FileSystem.temporarySuffix with
    | none => throw (.unnamed p)
    | some temporary =>
      requireName p.parent
      ensureDirectories faults p.parent
      requireName temporary
      asWrite (FileSystem.replaceBy faults temporary p bytes)

end Config
end Hotspot
