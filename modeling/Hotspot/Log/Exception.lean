/-
# Exceptions in the log

A record may tell of an exception, by its kind and its message. What is given
in its place is a value that is taken for a kind, an exception and a trace.

| value | text |
| --- | --- |
| `null`, `false`, zero, or empty | none |
| an array with `null` for the exception and the trace | that of no exception |
| any other | it cannot be told |
-/

import Hotspot.Log.Value

namespace Hotspot
namespace Log

/-- An exception. -/
structure Exception where
  kind : Text
  message : Text
  deriving DecidableEq, Repr

namespace Exception

/-- The text of an exception: its kind, and its message unless that is empty. -/
def text (e : Exception) : Text :=
  if e.message.isEmpty then e.kind else e.kind ++ ": " ++ e.message

/-- An exception as a value: its kind, its message, and no trace. -/
def value (e : Exception) : Value :=
  .json (.array [.text ("<class '" ++ e.kind ++ "'>"), .text e.message, .null])

/-- The text of no exception. -/
def noneText : Text := "NoneType: None"

/-- Why a value cannot be told as an exception. -/
inductive Fault
  /-- It has no parts. -/
  | noParts (kind : Text)
  /-- It is a text of fewer than three code points. -/
  | shortText
  /-- It is an array of fewer than three items. -/
  | shortArray
  /-- It is an object, which has names instead of places. -/
  | noPlaces
  /-- Its trace is none. -/
  | noTrace (kind : Text)
  /-- Its exception is none. -/
  | noException (kind : Text)
  deriving DecidableEq, Repr

/-- The wording of a fault. -/
def Fault.message : Fault → Text
  | .noParts kind => "'" ++ kind ++ "' object is not subscriptable"
  | .shortText => "string index out of range"
  | .shortArray => "list index out of range"
  | .noPlaces => "2"
  | .noTrace kind => "'" ++ kind ++ "' object has no attribute 'tb_frame'"
  | .noException kind => "'" ++ kind ++ "' object has no attribute '__suppress_context__'"

/-- The text of a value that is no exception but is told as one. -/
def textOfValue : Value → Except Fault Text
  | .json (.array (_ :: .null :: .null :: _)) => .ok noneText
  | .json (.array (_ :: e :: .null :: _)) => .error (.noException e.kindName)
  | .json (.array (_ :: _ :: trace :: _)) => .error (.noTrace trace.kindName)
  | .json (.array _) => .error .shortArray
  | .json (.text (_ :: _ :: c :: _)) => .error (.noTrace (Json.text [c]).kindName)
  | .json (.text _) => .error .shortText
  | .json (.object _) => .error .noPlaces
  | v => .error (.noParts v.kindName)

end Exception
end Log
end Hotspot
