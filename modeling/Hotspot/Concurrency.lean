/-
# Concurrency of station and hotspot

The vendor says in a template whether a station and a hotspot may run side by
side and on what channel; the overlay adds whether two hotspots may. Of the
template two kinds of lines matter:

| line | sets | to |
| --- | --- | --- |
| `ENABLE_STA_SAP_CONCURRENCY:`*n* | the flag | whether *n* is 1 |
| `SAP_CHANNEL:`*n* | the channel | *n* |

Here *n* is an integer of 32 bits, read strictly after every `CR` and `LF` is
dropped. A line of another value is reported and changes nothing; a value of
too many digits ends the reading.
-/

import Hotspot.FileSystem.Basic
import Hotspot.Config.Binary
import Hotspot.Log.Record
import Hotspot.Text.Integer
import Hotspot.Text.Lines

namespace Hotspot

/-- What may run side by side. -/
structure Concurrency where
  stationAllowed : Bool := false
  channel : Int := 0
  dualSupported : Bool := false
  dualInterfaces : List Text := []
  /-- Two hotspots are running; never on file. -/
  dualActive : Bool := false
  deriving DecidableEq, Repr

namespace Concurrency

/-- The keys of the template. -/
inductive Key
  | station
  | channel
  deriving DecidableEq, Repr

/-- How a line of a key starts. -/
def Key.start : Key → Text
  | .station => "ENABLE_STA_SAP_CONCURRENCY:"
  | .channel => "SAP_CHANNEL:"

/-- The name of a key in a report. -/
def Key.field : Key → Text
  | .station => "sta_sap_concurrency"
  | .channel => "sap_channel"

/-- The key of a line. -/
def Key.ofLine? (line : Text) : Option Key :=
  [.station, .channel].find? fun k => k.start.isPrefixOf line

/-- The value of a line. -/
def Key.value (k : Key) (line : Text) : Text :=
  (line.drop k.start.length).filter fun c => !Text.isLineEnd c

/-- What a line says. -/
inductive Directive
  /-- Nothing. -/
  | none
  /-- A key has a value. -/
  | set (key : Key) (value : Int)
  /-- A key has a value that is none. -/
  | bad (key : Key)
  /-- A key has a value of too many digits. -/
  | tooLong (digits : Nat)
  deriving DecidableEq, Repr

/-- The directive of a line. -/
def Directive.ofLine (line : Text) : Directive :=
  match Key.ofLine? line with
  | .none => .none
  | some k =>
    match Text.numeral (k.value line) with
    | .malformed => .bad k
    | .tooLong digits => .tooLong digits
    | .integer value => if Config.FitsInt32 value then .set k value else .bad k

/-- The setting after a directive. -/
def apply (c : Concurrency) : Directive → Concurrency
  | .set .station value => { c with stationAllowed := value = 1 }
  | .set .channel value => { c with channel := value }
  | _ => c

/-- A value had so many digits that the reading ended. -/
structure TooLong where
  digits : Nat
  deriving DecidableEq, Repr

/-- The setting after lines. -/
def readLines (c : Concurrency) : List Text → Except TooLong Concurrency
  | [] => .ok c
  | line :: lines =>
    match Directive.ofLine line with
    | .tooLong digits => .error ⟨digits⟩
    | d => readLines (c.apply d) lines

/-! ## What is logged -/

/-- The logger of the template. -/
def logger : Text := "softap_configd.concurrency"

/-- What is logged of a line. -/
def lineRecords (line : Text) : List Log.Record :=
  let text := Text.dropLineEnds line
  let seen : Log.Record :=
    { level := Log.Level.debug, logger, template := "concurrency_cfg_line " ++ text }
  match Directive.ofLine line with
  | .bad k =>
    [seen,
      { level := Log.Level.error, logger
        template := "concurrency_cfg_bad_format " ++ text.quoted
        extras := [("field", .text k.field)] }]
  | _ => [seen]

/-- A line ends the reading. -/
def endsReading (line : Text) : Bool :=
  match Directive.ofLine line with
  | .tooLong _ => true
  | _ => false

/-- The lines that are read: all up to the first that ends the reading. -/
def linesRead : List Text → List Text
  | [] => []
  | line :: lines => if endsReading line then [line] else line :: linesRead lines

/-- What is logged of lines. -/
def linesRecords (lines : List Text) : List Log.Record :=
  (linesRead lines).flatMap lineRecords

/-! ## The template file -/

/-- A reading of a template: its result, and what is logged. -/
structure Reading where
  result : Except TooLong Concurrency
  records : List Log.Record

/-- The setting after the lines of a file, which are read one at a time: a failure of the
file keeps what the lines before it say. -/
def readEach (c : Concurrency) (lines : List Text) : Except TooLong Concurrency :=
  lines.foldlM (fun c line => c.readLines [line]) c

/-- Reads lines, the last of which may be followed by a failure of the file. -/
def readOpen (c : Concurrency) (path : Path) (lines : List Text) (failure : Option IoError) :
    Reading :=
  let result := c.readEach lines
  let failed : List Log.Record :=
    match result, failure with
    | .ok _, some e =>
      [{ level := Log.Level.error, logger
         template := "concurrency_cfg_read_failed " ++ e.message
         extras := [("path", .text path.text)] }]
    | _, _ => []
  ⟨result, linesRecords lines ++ failed⟩

/-- The lines of a file. -/
def fileLines (bytes : Bytes) : List Text :=
  Text.lines (Utf8.decodeReplacing bytes)

/-- Reads the template at a path. Where there is no file, nothing is set. A
reading may be made to fail after some lines. -/
def load (fs : FileSystem) (path : Path) (c : Concurrency)
    (failAfter : Option (Nat × IoError) := none) : Except IoError Reading := do
  let about : List (Text × Log.Value) := [("path", .text path.text)]
  if ← fs.isFile path then
    let opened : Log.Record :=
      { level := Log.Level.debug, logger, template := "concurrency_cfg_reading", extras := about }
    let reading := match fs.read path with
      | .error e => c.readOpen path [] (some e)
      | .ok bytes =>
        match failAfter with
        | none => c.readOpen path (fileLines bytes) none
        | some (n, e) => c.readOpen path ((fileLines bytes).take n) (some e)
    pure ⟨reading.result, opened :: reading.records⟩
  else
    let absent : Log.Record :=
      { level := Log.Level.debug, logger, template := "concurrency_cfg_absent", extras := about }
    pure ⟨.ok c, [absent]⟩

end Concurrency
end Hotspot
