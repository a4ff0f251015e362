/-
# JSON values

Numbers written without fraction and exponent are integers of any size, other
numbers are doubles. The members of an object keep the order in which their
names first came.

A value is shown as a text, unless an integer in it has more digits than are
written.
-/

import Hotspot.Decimal.Shortest
import Hotspot.Text.DigitLimit
import Hotspot.Text.Quoted

namespace Hotspot

/-- A JSON value. -/
inductive Json
  | null
  | bool (b : Bool)
  | int (i : Int)
  | double (d : Double)
  | text (t : Text)
  | array (items : List Json)
  | object (members : List (Text × Json))
  deriving Repr

namespace Json

/-- The members of an object. -/
abbrev Members := List (Text × Json)

namespace Members

/-- The value of a name. -/
def get? (m : Members) (name : Text) : Option Json :=
  m.lookup name

/-- Gives a name a value: in place, or at the end if the name is new. -/
def set (name : Text) (value : Json) : Members → Members
  | [] => [(name, value)]
  | (n, v) :: rest => if n = name then (n, value) :: rest else (n, v) :: set name value rest

/-- Sets every member of a second object in turn. -/
def merge (m other : Members) : Members :=
  other.foldl (fun m (name, value) => set name value m) m

end Members

/-- A value that counts as set: not `null`, `false`, zero or empty. -/
def truthy : Json → Bool
  | .null => false
  | .bool b => b
  | .int i => i ≠ 0
  | .double d => !d.isZero
  | .text t => !t.isEmpty
  | .array items => !items.isEmpty
  | .object members => !members.isEmpty

/-- The word for the kind of a value. -/
def kindName : Json → Text
  | .null => "NoneType"
  | .bool _ => "bool"
  | .int _ => "int"
  | .double _ => "float"
  | .text _ => "str"
  | .array _ => "list"
  | .object _ => "dict"

mutual

/-- A value shown inside another one: texts are quoted. -/
def quoted? : Json → Option Text
  | .null => some "None"
  | .bool true => some "True"
  | .bool false => some "False"
  | .int i => Text.ofInt? i
  | .double d => some (d.render "nan" "inf")
  | .text t => some t.quoted
  | .array items => do
    let items ← quotedItems? items
    some ("[" ++ Text.joinWith ", " items ++ "]")
  | .object members => do
    let members ← quotedMembers? members
    some ("\x7b" ++ Text.joinWith ", " members ++ "\x7d")

/-- The items of an array, shown. -/
def quotedItems? : List Json → Option (List Text)
  | [] => some []
  | item :: items => do
    let t ← item.quoted?
    let ts ← quotedItems? items
    some (t :: ts)

/-- The members of an object, shown. -/
def quotedMembers? : List (Text × Json) → Option (List Text)
  | [] => some []
  | (name, value) :: members => do
    let t ← value.quoted?
    let ts ← quotedMembers? members
    some ((name.quoted ++ ": " ++ t) :: ts)

end

/-- A value shown by itself: a text is shown as it is. -/
def shown? : Json → Option Text
  | .text t => some t
  | j => j.quoted?

end Json
end Hotspot
