/-
# Forms of a command line

A form says which switches a command takes and how they are read. A switch has
names that start with hyphens, and takes a value or none. Of the rivals among
the switches exactly one has to be given. A form with commands hands the first
word, and all that follows it, over to the command the word names.

What does not fit a form is refused with one line that names the program.
-/

import Hotspot.Text.Quoted

namespace Hotspot
namespace CommandLine

/-- What a switch takes. -/
inductive Kind
  /-- Nothing: it asks for help. -/
  | help
  /-- Nothing: that it is given is all. -/
  | flag
  /-- A text. -/
  | text
  /-- An integer. -/
  | integer
  deriving DecidableEq, Repr

/-- The kind of a switch that takes a value. -/
def Kind.takesValue : Kind → Bool
  | .help | .flag => false
  | .text | .integer => true

/-- A switch. -/
structure Switch where
  names : List Text
  kind : Kind
  required : Bool := false
  deriving DecidableEq, Repr

/-- The names of a switch in a message. -/
def Switch.title (s : Switch) : Text :=
  Text.joinWith "/" s.names

/-- A form. -/
structure Form where
  program : Text
  switches : List Switch
  /-- The switches of which exactly one has to be given. -/
  rivals : List Switch := []
  commands : List Text := []
  deriving DecidableEq, Repr

/-- The switches of a form by name. -/
def Form.named (f : Form) : List (Text × Switch) :=
  f.switches.flatMap fun s => s.names.map fun name => (name, s)

/-- What does not fit a form. -/
inductive Fault
  /-- A shortened name that may stand for several. -/
  | ambiguous (argument : Text) (names : List Text)
  /-- A switch without its value. -/
  | noValue (s : Switch)
  /-- A value at a switch that takes none. -/
  | extraValue (s : Switch) (value : Text)
  /-- A value that is no integer. -/
  | notInteger (s : Switch) (value : Text)
  /-- A switch beside its rival. -/
  | conflict (s rival : Switch)
  /-- Switches, or the command, that have to be given. -/
  | missing (names : List Text)
  /-- Rivals of which none is given. -/
  | noRival (rivals : List Switch)
  /-- A word that names no command. -/
  | noCommand (word : Text) (commands : List Text)
  /-- Arguments that nothing takes. -/
  | unrecognized (arguments : List Text)
  deriving DecidableEq, Repr

/-- The word for the command in a message. -/
def commandTitle : Text := "command"

/-- The wording of what is wrong with an argument. -/
def aboutArgument (title wording : Text) : Text :=
  "argument " ++ title ++ ": " ++ wording

/-- The wording of a fault. -/
def Fault.message : Fault → Text
  | .ambiguous argument names =>
    "ambiguous option: " ++ argument ++ " could match " ++ Text.joinWith ", " names
  | .noValue s => aboutArgument s.title "expected one argument"
  | .extraValue s value => aboutArgument s.title ("ignored explicit argument " ++ value.quoted)
  | .notInteger s value => aboutArgument s.title ("invalid int value: " ++ value.quoted)
  | .conflict s rival => aboutArgument s.title ("not allowed with argument " ++ rival.title)
  | .missing names => "the following arguments are required: " ++ Text.joinWith ", " names
  | .noRival rivals =>
    "one of the arguments " ++ Text.joinWith " " (rivals.map Switch.title) ++ " is required"
  | .noCommand word commands =>
    aboutArgument commandTitle ("invalid choice: " ++ word.quoted ++ " (choose from " ++
      Text.joinWith ", " (commands.map Text.quoted) ++ ")")
  | .unrecognized arguments => "unrecognized arguments: " ++ Text.joinWith " " arguments

/-- Why a command line is not carried out. -/
inductive Stop
  /-- Help on a program is asked for. -/
  | help (program : Text)
  /-- It does not fit the form of a program. -/
  | misuse (program : Text) (fault : Fault)
  deriving DecidableEq, Repr

/-- The line that refuses a command line. -/
def refusal (program : Text) (fault : Fault) : Text :=
  program ++ ": error: " ++ fault.message

end CommandLine
end Hotspot
