/-
# The program

The command line on the files of the machine. What the paths of a command line
lead to is looked up first, the command is carried out on that, and what has
changed is put back: new directories are made, and a changed file is replaced
as a whole.
-/

import Hotspot.CommandLine.Run
import Std.Time.DateTime.Timestamp

namespace Hotspot
namespace Program

/-- The string of a text that the system is to see. -/
def systemString (t : Text) : IO String :=
  match t.toString? with
  | some s => pure s
  | none => throw (IO.userError "a lone surrogate has no bytes")

/-- The string of the bytes of a file name. -/
def nameString (b : Bytes) : IO String := do
  match Utf8.decode b with
  | .ok t => systemString t
  | .error e => throw (IO.userError (← systemString e.message))

/-- What the system has at a path. -/
def entryAt? (p : Path) : IO (Option Entry) := do
  let place := (← IO.currentDir) / (← systemString p.text)
  if ← place.isDir then return some .directory
  if ← place.pathExists then
    return some (.file (← IO.FS.readBinFile place).toList FileSystem.newFileMode)
  return none

/-- The file system that holds the working directory and those above it. -/
def emptyFiles : IO FileSystem := do
  let place := Path.ofText (Text.ofString (← IO.currentDir).toString)
  let directory := (place.names.map Path.bytes).reverse
  let above := (List.range (directory.length + 1)).map fun n => Location.ofNames (directory.drop n)
  match FileSystem.ofEntries? (.ofNames directory) (above.map fun l => (l, .directory)) with
  | some fs => return fs
  | none => throw (IO.userError "the working directory is in no tree")

/-- Adds what the system has at a path and on the way to it. -/
def lookUp (fs : FileSystem) (p : Path) : IO FileSystem := do
  let mut fs := fs
  for n in [1:p.names.length + 1] do
    let part := { p with names := p.names.take n }
    match fs.locate part, ← entryAt? part with
    | .ok l, some entry => fs := fs.set l entry
    | _, _ => pure ()
  return fs

/-- Adds what the system has at the paths of an invocation. -/
def lookUpAll (s : Settings) (i : CommandLine.Invocation) : IO FileSystem := do
  let configFile := Settings.pathOr s.configFile i.configFile
  let temporary := (configFile.addSuffix? FileSystem.temporarySuffix).toList
  let others := [Settings.pathOr s.concurrencyFile i.concurrencyFile,
    Settings.pathOr s.overlayFile i.overlayFile]
  (configFile :: temporary ++ others).foldlM lookUp (← emptyFiles)

/-- Puts an entry at a location of the system. -/
def putBack (l : Location) (entry : Entry) : IO Unit := do
  let name := "/" ++ String.intercalate "/" (← l.names.reverse.mapM nameString)
  match entry with
  | .directory => IO.FS.createDirAll name
  | .file content _ =>
    let temporary := name ++ (← systemString FileSystem.temporarySuffix)
    IO.FS.writeBinFile temporary ⟨content.toArray⟩
    IO.setAccessRights temporary { user := { read := true, write := true } }
    IO.FS.rename temporary name

/-- Puts back what has changed, directories from the root on. -/
def putBackChanges (before after : FileSystem) : IO Unit := do
  let changes := after.entries.filter fun e => before.get? e.1 ≠ some e.2
  for (l, entry) in changes.mergeSort fun a b => a.1.depth ≤ b.1.depth do
    putBack l entry

/-- The values of the environment that matter. -/
def environment : IO Environment := do
  let names := [Settings.configFileName, Settings.concurrencyFileName, Settings.overlayFileName,
    Settings.logLevelName]
  let values ← names.filterMapM fun name => do
    return (← IO.getEnv (← systemString name)).map fun value => (name, Text.ofString value)
  return fun name => values.lookup name

/-- Random inputs for one run, which draws each at most once. -/
def entropy : IO Entropy := do
  let suffix ← IO.rand Config.suffixMin.toNat Config.suffixMax.toNat
  let bytes ← IO.getRandomBytes 16
  let uuid : Uuid := Fin.ofNat _ (bytes.toList.foldl (fun n b => n * 0x100 + b.toNat) 0)
  return { suffix := fun _ => .ok suffix, uuid := fun _ => .ok uuid }

/-- Writes the log to the error output. -/
def writeLog (records : List Log.Record) : IO Unit := do
  let second := (← Std.Time.Timestamp.now).toSecondsSinceUnixEpoch.val
  for r in records do
    match Log.line Log.fields (.json (.int second)) r with
    | .ok line => IO.eprintln (← systemString line)
    | .error e => IO.eprintln (← systemString e.wording)

/-- Ends a run, and gives its exit code. -/
def finish : CommandLine.Ending → IO Nat
  | .stopped (.help program) => do
    IO.println (← systemString ("usage: " ++ program ++ " [options]"))
    return CommandLine.exitDone
  | .stopped (.misuse program fault) => do
    IO.eprintln (← systemString (CommandLine.refusal program fault))
    return CommandLine.exitInvalid
  | .failed e => do
    IO.eprintln (← systemString e.message)
    return 1
  | .answered answer => do
    IO.print (← systemString answer.text)
    return answer.code

/-- Runs the program on a command line. -/
def run (arguments : List Text) : IO Nat := do
  match CommandLine.Invocation.ofArguments arguments with
  | .error stop => finish (.stopped stop)
  | .ok i =>
    let env ← environment
    let files ← lookUpAll (Settings.ofEnvironment env) i
    let outcome := CommandLine.runInvocation env i { files, entropy := ← entropy }
    putBackChanges files outcome.world.files
    writeLog outcome.records
    finish outcome.ending

end Program
end Hotspot

/-- The program. -/
def main (arguments : List String) : IO UInt32 := do
  return UInt32.ofNat (← Hotspot.Program.run (arguments.map Hotspot.Text.ofString))
