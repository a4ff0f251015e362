/-
# Reading a command line

The tokens are read in turn, and the first fault is the one that counts. A
switch that takes a value has it attached or takes the next word. A value that
is the separator is dropped, which leaves the switch without one. A later value
of a switch replaces an earlier one. Behind the short name of a switch that
takes no value more such names, and nothing else, may follow without a hyphen.

What nothing takes is kept, and refused when all else is read.
-/

import Hotspot.CommandLine.Token
import Hotspot.Text.Integer

namespace Hotspot
namespace CommandLine

/-- What is given with a switch. -/
inductive Value
  /-- Nothing but the switch, or a value that was dropped. -/
  | nothing
  | text (t : Text)
  | integer (i : Int)
  deriving DecidableEq, Repr

/-- A command line that was read, or the part that was. -/
structure Reading where
  /-- The switches and what is given with them, in order. -/
  given : List (Switch × Value) := []
  /-- What nothing takes. -/
  leftover : List Text := []
  /-- The word of the command, and all that follows it. -/
  command : Option (Text × List Text) := none
  deriving DecidableEq, Repr

namespace Reading

/-- A switch is given. -/
def has (r : Reading) (s : Switch) : Bool :=
  r.given.any fun g => g.1 = s

/-- What is given last with a switch. -/
def value? (r : Reading) (s : Switch) : Option Value :=
  r.given.reverse.lookup s

/-- The text given with a switch. -/
def text? (r : Reading) (s : Switch) : Option Text :=
  match r.value? s with
  | some (.text t) => some t
  | _ => none

/-- The integer given with a switch, or a standard one if the switch is not
given; there is none if the value was dropped. -/
def integer? (r : Reading) (s : Switch) (standard : Int) : Option Int :=
  match r.value? s with
  | none => some standard
  | some (.integer i) => some i
  | some _ => none

/-- Keeps an argument that nothing takes. -/
def leave (r : Reading) (argument : Text) : Reading :=
  { r with leftover := r.leftover ++ [argument] }

end Reading

/-- What a text is as the value of a switch. -/
def Switch.value (s : Switch) (t : Text) : Except Fault Value :=
  if t = separatorText then .ok .nothing
  else
    match s.kind with
    | .integer =>
      match t.toInt? with
      | some i => .ok (.integer i)
      | none => .error (.notInteger s t)
    | _ => .ok (.text t)

/-- The rival of a switch that is given. -/
def Form.rival? (f : Form) (r : Reading) (s : Switch) : Option Switch :=
  if f.rivals.contains s then f.rivals.find? fun rival => rival ≠ s && r.has rival else none

/-- Reads a switch with what is given with it. -/
def Form.accept (f : Form) (r : Reading) (s : Switch) (value : Value) : Except Stop Reading :=
  match f.rival? r s with
  | some rival => .error (.misuse f.program (.conflict s rival))
  | none =>
    if s.kind = .help then .error (.help f.program)
    else .ok { r with given := r.given ++ [(s, value)] }

/-- Reads a switch with a text as its value. -/
def Form.acceptText (f : Form) (r : Reading) (s : Switch) (t : Text) : Except Stop Reading := do
  f.accept r s (← (s.value t).mapError (.misuse f.program))

/-- A short name of a switch that takes no value. -/
def Form.flag? (f : Form) (c : CodePoint) : Option Switch :=
  (f.named.lookup [0x2D, c]).filter fun s => !s.kind.takesValue

/-- The switches of short names in a run behind the first. What is no such name
is a value, which the switch before it does not take. -/
def Form.flags (f : Form) (s : Switch) : Text → Except Fault (List Switch)
  | [] => .error (.extraValue s [])
  | c :: rest =>
    match f.flag? c with
    | none => .error (.extraValue s (c :: rest))
    | some next => if rest = [] then .ok [next] else do pure (next :: (← f.flags next rest))

/-- Reads a switch that takes no value. -/
def Form.acceptFlag (f : Form) (r : Reading) (s : Switch) : Attached → Except Stop Reading
  | .nothing => f.accept r s .nothing
  | .equals t => .error (.misuse f.program (.extraValue s t))
  | .run t => do
    let others ← (f.flags s t).mapError (.misuse f.program)
    (s :: others).foldlM (fun r s => f.accept r s .nothing) r

/-- Reads tokens. -/
def Form.read (f : Form) (r : Reading) : List Token → Except Stop Reading
  | [] => .ok r
  | .word t :: rest =>
    if f.commands.isEmpty then f.read (r.leave t) rest
    else .ok { r with command := some (t, rest.map Token.argument) }
  | .separator :: rest =>
    if f.commands.isEmpty ∨ rest = [] then f.read (r.leave separatorText) rest
    else .ok { r with command := some (separatorText, rest.map Token.argument) }
  | .unknown t :: rest => f.read (r.leave t) rest
  | .switch s attached _ :: rest =>
    if s.kind.takesValue then
      match attached, rest with
      | .equals t, rest | .run t, rest | .nothing, .word t :: rest => do
        f.read (← f.acceptText r s t) rest
      | .nothing, _ => .error (.misuse f.program (.noValue s))
    else do f.read (← f.acceptFlag r s attached) rest

/-- What has to be given and is not. -/
def Form.missing (f : Form) (r : Reading) : List Text :=
  ((f.switches.filter fun s => s.required && !r.has s).map Switch.title) ++
    if f.commands.isEmpty || r.command.isSome then [] else [commandTitle]

/-- Refuses a reading that lacks something. -/
def Form.complete (f : Form) (r : Reading) : Except Fault Reading :=
  if f.missing r ≠ [] then .error (.missing (f.missing r))
  else if f.rivals ≠ [] ∧ !f.rivals.any r.has then .error (.noRival f.rivals)
  else .ok r

/-- The reading of arguments, where the command is not yet read. -/
def Form.reading (f : Form) (arguments : List Text) : Except Stop Reading := do
  let tokens ← (f.tokens arguments).mapError (.misuse f.program)
  f.read {} tokens

end CommandLine
end Hotspot
