/-
# Replacing a file

A file is replaced as a whole: the new content goes to a temporary file beside
it, which is then renamed over it. The calls, in order:

| call | on | a failure |
| --- | --- | --- |
| make directory | each missing parent | ends the replacement |
| look | a parent that was not made | ends it |
| open, write, flush | the temporary file | ends it, after a clean-up |
| sync | the temporary file | is ignored |
| change mode to `0600` | the temporary file | ends it, after a clean-up |
| rename | the temporary file to the file | ends it, after a clean-up |
| unlink (the clean-up) | the temporary file | is ignored |

A parent whose own parent is missing is tried twice: before that one is made, and once
more after it. How many parents can wait for the one above them depends on who writes.
-/

import Hotspot.FileSystem.Basic

namespace Hotspot

/-- The calls of a replacement. No call is made twice. -/
inductive Call
  /-- Making a directory, which may be tried again after the one above it was made. -/
  | makeDirectory (path : Path) (again : Bool)
  /-- The look whether there is a directory where none was made. -/
  | look (path : Path)
  | openFile
  | write
  | flush
  | sync
  | changeMode
  | rename
  | unlink
  deriving DecidableEq, Repr

/-- What stands in the way of a replacement. -/
structure Faults where
  /-- The calls that are made to fail, and how. -/
  refuse : Call → Option IoError := fun _ => none
  /-- How many bytes a failing write gets out all the same. -/
  written : Nat := 0
  /-- How many directories can be made one inside the other, if that is bounded. -/
  room : Option Nat := none

/-- Nothing stands in the way. -/
def Faults.none : Faults := {}

/-- So many directories can be made one inside the other. -/
def Faults.hasRoomFor (faults : Faults) (directories : Nat) : Bool :=
  faults.room.all fun room => directories ≤ room

namespace FileSystem

/-- A sequence of calls. It keeps the file system as it is when one fails. -/
abbrev Calls (α : Type) := EStateM IoError FileSystem α

/-- A call that fails if it is made to, and otherwise does what it does. -/
def guarded (faults : Faults) (call : Call) (action : Calls α) : Calls α :=
  match faults.refuse call with
  | some refusal => throw refusal
  | none => action

/-- The location of a path, where a failure is one of a call on the path. -/
def locating (p : Path) : Calls Location := do
  match (← get).locate p with
  | .ok l => pure l
  | .error reason => throw (.call reason p)

/-- Makes a directory at a place where nothing is, or tries it again. -/
def makeDirectory (faults : Faults) (place : Place) (again : Bool) : Calls Unit :=
  guarded faults (.makeDirectory place.1 again) do
    match place.2 with
    | .error reason => throw (.call reason place.1)
    | .ok l =>
      match (← get).get? l with
      | some _ => throw (.call .exists place.1)
      | none => modify (·.set l .directory)

/-- Looks whether there is a directory at a place. That nothing is there, or that the
way leads over a file, is no failure. -/
def isDirectoryAt (faults : Faults) (place : Place) : Calls Bool :=
  tryCatch
    (guarded faults (.look place.1) do
      match place.2 with
      | .ok l => pure ((← get).get? l = some .directory)
      | .error reason => throw (.call reason place.1))
    fun
      | .call .noEntry _ | .call .notDirectory _ => pure false
      | e => throw e

/-- Goes on after a failure to make a directory at a place if there is one. -/
def unlessDirectory (faults : Faults) (place : Place) (e : IoError) : Calls Unit := do
  if !(← isDirectoryAt faults place) then throw e

/-- Makes a directory at a place unless there is one, after those above it. -/
def ensureLast (faults : Faults) (place : Place) (again : Bool) : Calls Unit :=
  tryCatch (makeDirectory faults place again) fun e =>
    match e with
    | .call .noEntry _ => throw e
    | _ => unlessDirectory faults place e

/-- Makes a directory at a place unless there is one. Where the one above is missing
that is made before; it is at the first of the places on the way. What comes of it is
the place with the location it has by then. -/
def ensureDirectory (faults : Faults) (place : Place) : List Place → Calls Place
  | [] => do
    ensureLast faults place false
    pure place
  | next :: way =>
    tryCatch (do makeDirectory faults place false; pure place) fun e =>
      match e, place.1.name? with
      | .call .noEntry _, some name => do
        let above ← ensureDirectory faults next way
        let place := (← get).placeBelow above name
        ensureLast faults place true
        pure place
      | .call .noEntry _, none => throw e
      | _, _ => do
        unlessDirectory faults place e
        pure place

/-- At first there is no making the directory at a place, for want of the one above. -/
def lacksAbove (faults : Faults) (place : Place) : Bool :=
  match faults.refuse (.makeDirectory place.1 false) with
  | some (.call .noEntry _) => true
  | some _ => false
  | none =>
    match place.2 with
    | .error .noEntry => true
    | _ => false

/-- How many directories are to be made one inside the other for a place and those
on the way to it: each that lacks the one above waits for that one. -/
def nesting (faults : Faults) (place : Place) : List Place → Nat
  | [] => 1
  | next :: way => if lacksAbove faults place then nesting faults next way + 1 else 1

/-- The mode of a new file. -/
def newFileMode : Nat := 0o644

/-- The mode of a replaced file. -/
def privateMode : Nat := 0o600

/-- Opens a file for writing: it is there afterwards, and empty. -/
def openEmpty (faults : Faults) (p : Path) : Calls Unit :=
  guarded faults .openFile do
    let l ← locating p
    match (← get).get? l with
    | some .directory => throw (.call .isDirectory p)
    | some (.file _ mode) => modify (·.set l (.file [] mode))
    | none => modify (·.set l (.file [] newFileMode))

/-- Gives a file its content. -/
def fill (p : Path) (content : Bytes) : Calls Unit := do
  let l ← locating p
  match (← get).get? l with
  | some (.file _ mode) => modify (·.set l (.file content mode))
  | _ => pure ()

/-- Writes to an open file; a write that fails may have got some bytes out. -/
def writeAll (faults : Faults) (p : Path) (content : Bytes) : Calls Unit :=
  match faults.refuse .write with
  | some refusal => do
    fill p (content.take faults.written)
    throw refusal
  | none => fill p content

/-- Gives a file a mode. -/
def changeMode (faults : Faults) (p : Path) (mode : Nat) : Calls Unit :=
  guarded faults .changeMode do
    let l ← locating p
    match (← get).get? l with
    | some (.file content _) => modify (·.set l (.file content mode))
    | some .directory => pure ()
    | none => throw (.call .noEntry p)

/-- Moves a file over what is at another path, unless that is a directory. -/
def rename (faults : Faults) (source target : Path) : Calls Unit :=
  guarded faults .rename do
    let fs ← get
    match fs.locate source, fs.locate target with
    | .error reason, _ | _, .error reason => throw (.rename reason source target)
    | .ok s, .ok t =>
      if target.name? = some Path.up then throw (.rename .busy source target)
      else
        match fs.get? s, fs.get? t with
        | none, _ => throw (.rename .noEntry source target)
        | some _, some .directory => throw (.rename .isDirectory source target)
        | some entry, _ => modify fun fs => (fs.erase s).set t entry

/-- Removes a file. -/
def unlink (faults : Faults) (p : Path) : Calls Unit :=
  guarded faults .unlink do
    let l ← locating p
    match (← get).get? l with
    | some (.file ..) => modify (·.erase l)
    | some .directory => throw (.call .isDirectory p)
    | none => throw (.call .noEntry p)

/-- Goes on whether or not a call fails. -/
def ignoring (calls : Calls Unit) : Calls Unit :=
  tryCatch calls fun _ => pure ()

/-- Fills a temporary file and renames it over a file. -/
def replaceBy (faults : Faults) (temporary target : Path) (content : Bytes) : Calls Unit :=
  tryCatch
    (do
      openEmpty faults temporary
      writeAll faults temporary content
      guarded faults .flush (pure ())
      ignoring (guarded faults .sync (pure ()))
      changeMode faults temporary privateMode
      rename faults temporary target)
    fun e => do
      ignoring (unlink faults temporary)
      throw e

/-- The suffix of a temporary file. -/
def temporarySuffix : Text := ".tmp"

end FileSystem
end Hotspot
