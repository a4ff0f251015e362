/-
# Tokens of a command line

Every argument is told to be a word or a switch before any is read. One that
starts with a hyphen and is longer than that is a switch, by the first of these
rules that applies:

| argument | token |
| --- | --- |
| `--` | the separator; all behind it are words |
| a name | that switch |
| a name, `=` and a text | that switch, with the text |
| the start of a long name, with or without `=` and a text | that switch |
| a short name and a text | that switch, with the text |
| a negative number | a word |
| anything with a space | a word |
| anything else | an unknown switch |

The start of several names is refused.
-/

import Hotspot.CommandLine.Form
import Hotspot.Text.Digit

namespace Hotspot
namespace CommandLine

/-- What is attached to a switch in one argument. -/
inductive Attached
  | nothing
  /-- A text behind a long name and `=`. -/
  | equals (t : Text)
  /-- A text behind a short name, with or without `=`. -/
  | run (t : Text)
  deriving DecidableEq, Repr

/-- What an argument is. -/
inductive Token
  | word (argument : Text)
  | separator
  /-- A switch, and what is attached to it. -/
  | switch (s : Switch) (attached : Attached) (argument : Text)
  | unknown (argument : Text)
  deriving DecidableEq, Repr

/-- The separator. -/
def separatorText : Text := "--"

/-- The argument of a token. -/
def Token.argument : Token → Text
  | .word argument | .switch _ _ argument | .unknown argument => argument
  | .separator => separatorText

/-- A text up to its first `=`, and what is behind that. -/
def cutAtEquals : Text → Text × Attached
  | [] => ([], .nothing)
  | c :: rest =>
    if c = 0x3D then ([], .equals rest)
    else
      let (name, value) := cutAtEquals rest
      (c :: name, value)

/-- A digit of any script. -/
def isDigit (c : CodePoint) : Bool :=
  c.digit?.isSome

/-- Digits to the end, or to a line feed at the end. -/
def isDigits (t : Text) : Bool :=
  match t.span isDigit with
  | (_ :: _, []) | (_ :: _, [0x0A]) => true
  | _ => false

/-- A hyphen and a decimal number. -/
def isNegativeNumber : Text → Bool
  | 0x2D :: t =>
    isDigits t ||
      match t.dropWhile isDigit with
      | 0x2E :: fraction => isDigits fraction
      | _ => false
  | _ => false

/-- The switches that a long name, in full or shortened, may stand for. -/
def Form.longMatches (f : Form) (t : Text) : List (Text × Switch × Attached) :=
  let (start, value) := cutAtEquals t
  (f.named.filter fun (name, _) => start.isPrefixOf name).map fun (name, s) => (name, s, value)

/-- The switches that a short name with something behind it may stand for. -/
def Form.shortMatches (f : Form) (t : Text) : List (Text × Switch × Attached) :=
  f.named.filterMap fun (name, s) =>
    if name = t.take 2 then some (name, s, .run (t.drop 2))
    else if t.isPrefixOf name then some (name, s, .nothing)
    else none

/-- The switches that an argument may stand for. -/
def Form.matching (f : Form) (t : Text) : List (Text × Switch × Attached) :=
  if separatorText.isPrefixOf t then f.longMatches t else f.shortMatches t

/-- The token of an argument that is no name of a switch. -/
def Form.looseToken (f : Form) (t : Text) : Except Fault Token :=
  match f.matching t with
  | [(_, s, value)] => .ok (.switch s value t)
  | [] =>
    if isNegativeNumber t || t.contains 0x20 then .ok (.word t) else .ok (.unknown t)
  | found => .error (.ambiguous t (found.map Prod.fst))

/-- A text behind a name and `=`, as it is attached to a switch. -/
def attachedTo (name value : Text) : Attached :=
  if separatorText.isPrefixOf name then .equals value else .run value

/-- The token of an argument that starts with a hyphen and goes on. -/
def Form.switchToken (f : Form) (t : Text) : Except Fault Token :=
  match f.named.lookup t with
  | some s => .ok (.switch s .nothing t)
  | none =>
    match cutAtEquals t with
    | (name, .equals value) =>
      match f.named.lookup name with
      | some s => .ok (.switch s (attachedTo name value) t)
      | none => f.looseToken t
    | _ => f.looseToken t

/-- The token of an argument before the separator. -/
def Form.token (f : Form) (t : Text) : Except Fault Token :=
  match t with
  | 0x2D :: _ :: _ => f.switchToken t
  | _ => .ok (.word t)

/-- The tokens of arguments. -/
def Form.tokens (f : Form) : List Text → Except Fault (List Token)
  | [] => .ok []
  | t :: rest =>
    if t = separatorText then .ok (.separator :: rest.map .word)
    else do
      let token ← f.token t
      pure (token :: (← f.tokens rest))

end CommandLine
end Hotspot
