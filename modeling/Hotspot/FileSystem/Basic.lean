/-
# A file system

A path is followed from the working directory or from the root, one name after the
other; every name but the last has to lead to a directory, and `..` leads to the
directory above. Names are bytes, so that two texts with the same bytes lead to
the same place.

A call fails for a reason of the file system, or because its caller is made to
see it fail; a call that fails changes nothing.
-/

import Hotspot.FileSystem.Tree

namespace Hotspot

/-- Why the file system refuses a call. -/
inductive Errno
  | noEntry
  | exists
  | notDirectory
  | isDirectory
  | busy
  | nameTooLong
  deriving DecidableEq, Repr

namespace Errno

/-- The number of a reason. -/
def number : Errno → Nat
  | .noEntry => 2
  | .busy => 16
  | .exists => 17
  | .notDirectory => 20
  | .isDirectory => 21
  | .nameTooLong => 36

/-- The wording of a reason. -/
def message : Errno → Text
  | .noEntry => "No such file or directory"
  | .busy => "Device or resource busy"
  | .exists => "File exists"
  | .notDirectory => "Not a directory"
  | .isDirectory => "Is a directory"
  | .nameTooLong => "File name too long"

/-- The label of a reason in a report. -/
def label : Errno → Text
  | .noEntry => "FileNotFoundError"
  | .exists => "FileExistsError"
  | .notDirectory => "NotADirectoryError"
  | .isDirectory => "IsADirectoryError"
  | .busy | .nameTooLong => "OSError"

end Errno

/-- A failed call. -/
inductive IoError
  /-- A call on one path. -/
  | call (reason : Errno) (path : Path)
  /-- A renaming. -/
  | rename (reason : Errno) (source target : Path)
  /-- A call that was made to fail. -/
  | refused (message : Text)
  deriving DecidableEq, Repr

namespace IoError

/-- The number and the wording of a reason. -/
def reasonText (reason : Errno) : Text :=
  "[Errno " ++ Text.ofNat reason.number ++ "] " ++ reason.message

/-- The wording of a failed call. -/
def message : IoError → Text
  | .call reason path => reasonText reason ++ ": " ++ path.text.quoted
  | .rename reason source target =>
    reasonText reason ++ ": " ++ source.text.quoted ++ " -> " ++ target.text.quoted
  | .refused message => message

/-- The label of a failed call in a report. -/
def label : IoError → Text
  | .call reason _ | .rename reason _ _ => reason.label
  | .refused _ => "OSError"

/-- A failed call with its label. -/
def report (e : IoError) : Text :=
  e.label ++ ": " ++ e.message

end IoError

/-- The most bytes a name may have. -/
def nameLimit : Nat := 255

/-- The most bytes a path may have. -/
def pathLimit : Nat := 4095

namespace FileSystem

/-- Follows names from a location. -/
def follow (fs : FileSystem) (here : Location) : List Text → Except Errno Location
  | [] => .ok here
  | name :: names =>
    match fs.get? here with
    | none => .error .noEntry
    | some (.file ..) => .error .notDirectory
    | some .directory =>
      if name = Path.up then fs.follow here.parent names
      else if nameLimit < (Path.bytes name).length then .error .nameTooLong
      else fs.follow (here.child (Path.bytes name)) names

/-- The location a path starts from. -/
def startOf (fs : FileSystem) (p : Path) : Location :=
  if p.start = .here then fs.workingDirectory else .root

/-- A path has more bytes than it may have. -/
def isTooLong (p : Path) : Bool :=
  pathLimit < (Path.bytes p.text).length

/-- The location a path leads to, where nothing need be. -/
def locate (fs : FileSystem) (p : Path) : Except Errno Location :=
  if isTooLong p then .error .nameTooLong else fs.follow (fs.startOf p) p.names

/-- A path, and the location it leads to. -/
abbrev Place := Path × Except Errno Location

/-- The place of a path. -/
def placeOf (fs : FileSystem) (p : Path) : Place := (p, fs.locate p)

/-- The place of a name below another place, of a path that is not too long. -/
def placeBelow (fs : FileSystem) (above : Place) (name : Text) : Place :=
  ({ above.1 with names := above.1.names ++ [name] },
    above.2.bind fun l => fs.follow l [name])

/-- The place that names lead to from a place, and the places on the way on top of
those before, the last one first. -/
def placesFrom (fs : FileSystem) (before : List Place) (here : Place) :
    List Text → Place × List Place
  | [] => (here, before)
  | name :: names => fs.placesFrom (here :: before) (fs.placeBelow here name) names

/-- The place of a path, and the places on the way, the last one first. There is no
way along a path that is too long. -/
def placesAlong (fs : FileSystem) (p : Path) : Place × List Place :=
  if isTooLong p then (fs.placeOf p, [])
  else fs.placesFrom [] (fs.placeOf { p with names := [] }) p.names

/-- What a path leads to. -/
def entry? (fs : FileSystem) (p : Path) : Except Errno Entry := do
  match fs.get? (← fs.locate p) with
  | some entry => pure entry
  | none => throw .noEntry

/-- The content of the file a path leads to. -/
def read (fs : FileSystem) (p : Path) : Except IoError Bytes :=
  match fs.entry? p with
  | .ok (.file content _) => .ok content
  | .ok .directory => .error (.call .isDirectory p)
  | .error reason => .error (.call reason p)

/-- Whether what a path leads to passes a test. That nothing is there, or that
the way leads over a file, is no failure. -/
def probe (fs : FileSystem) (p : Path) (test : Entry → Bool) : Except IoError Bool :=
  if p.nameFault?.isSome then .ok false
  else
    match fs.entry? p with
    | .ok entry => .ok (test entry)
    | .error .noEntry | .error .notDirectory => .ok false
    | .error reason => .error (.call reason p)

/-- Something is at the end of a path. -/
def exists? (fs : FileSystem) (p : Path) : Except IoError Bool :=
  fs.probe p fun _ => true

/-- A file is at the end of a path. -/
def isFile (fs : FileSystem) (p : Path) : Except IoError Bool :=
  fs.probe p fun
    | .file .. => true
    | .directory => false

/-- A directory is at the end of a path. -/
def isDirectory (fs : FileSystem) (p : Path) : Except IoError Bool :=
  fs.probe p fun
    | .file .. => false
    | .directory => true

end FileSystem
end Hotspot
