/-
# Writing JSON

The text of a value is ASCII: every code point outside `20 … 7E` is escaped, a
supplementary one as its two surrogates. Doubles that are no decimal are
written `NaN`, `Infinity` and `-Infinity`. An integer has a text if its numeral
is within the limit.
-/

import Hotspot.Json.Basic
import Hotspot.Text.Surrogate

namespace Hotspot
namespace Json

/-- How values are laid out. -/
structure Layout where
  /-- What stands between two items on one line. -/
  comma : Text
  /-- What stands between a name and its value. -/
  colon : Text
  /-- Items stand on lines of their own, indented by so many spaces a level. -/
  indent : Option Nat := none
  /-- The members of an object are sorted by name. -/
  sorted : Bool := false

/-- All on one line, without spaces. -/
def compact : Layout := { comma := ",", colon := ":" }

/-- All on one line, members sorted. -/
def oneLine : Layout := { comma := ", ", colon := ": ", sorted := true }

/-- An item a line, indented by two spaces, members sorted. -/
def indented : Layout := { comma := ",", colon := ": ", indent := some 2, sorted := true }

/-- A code unit as an escape. -/
def escapeUnit (c : CodePoint) : Text :=
  "\\u" ++ Text.ofHex 4 c.val

/-- One code point inside quotes. -/
def escapePoint (c : CodePoint) : Text :=
  if c = 0x22 then "\\\""
  else if c = 0x5C then "\\\\"
  else if c = 0x0A then "\\n"
  else if c = 0x0D then "\\r"
  else if c = 0x09 then "\\t"
  else if c = 0x0C then "\\f"
  else if c = 0x08 then "\\b"
  else if 0x20 ≤ c.val ∧ c.val ≤ 0x7E then [c]
  else if c.val < 0x10000 then escapeUnit c
  else escapeUnit c.split.1 ++ escapeUnit c.split.2

/-- A text between quotes. -/
def writeText (t : Text) : Text :=
  0x22 :: t.flatMap escapePoint ++ [0x22]

/-- A line break and the indentation of a level. -/
def Layout.newline (layout : Layout) (level : Nat) : Text :=
  match layout.indent with
  | none => []
  | some n => 0x0A :: List.replicate (n * level) 0x20

/-- Written items between brackets, at a level. -/
def Layout.enclose (layout : Layout) (level : Nat) (left right : CodePoint)
    (items : List Text) : Text :=
  if items.isEmpty then [left, right]
  else
    left :: layout.newline (level + 1) ++
      Text.joinWith (layout.comma ++ layout.newline (level + 1)) items ++
      layout.newline level ++ [right]

/-- Written members in the order of the layout. -/
def Layout.arrange (layout : Layout) (members : List (Text × Text)) : List (Text × Text) :=
  if layout.sorted then members.mergeSort fun a b => Text.ble a.1 b.1 else members

mutual

/-- The text of a value at a level. -/
def writeAt (layout : Layout) (level : Nat) : Json → Text
  | .null => "null"
  | .bool true => "true"
  | .bool false => "false"
  | .int i => Text.ofInt i
  | .double d => d.render "NaN" "Infinity"
  | .text t => writeText t
  | .array items => layout.enclose level 0x5B 0x5D (writeItems layout (level + 1) items)
  | .object members =>
    layout.enclose level 0x7B 0x7D
      ((layout.arrange (writeMembers layout (level + 1) members)).map fun (name, value) =>
        writeText name ++ layout.colon ++ value)

/-- The texts of the items of an array. -/
def writeItems (layout : Layout) (level : Nat) : List Json → List Text
  | [] => []
  | item :: items => item.writeAt layout level :: writeItems layout level items

/-- The texts of the values of an object, by name. -/
def writeMembers (layout : Layout) (level : Nat) : List (Text × Json) → List (Text × Text)
  | [] => []
  | (name, value) :: members =>
    (name, value.writeAt layout level) :: writeMembers layout level members

end

/-- The text of a value. -/
def write (layout : Layout) (j : Json) : Text :=
  j.writeAt layout 0

mutual

/-- The integers in a value are within the limit on numerals. -/
def isWritable : Json → Bool
  | .int i => writable i
  | .array items => areWritable items
  | .object members => membersAreWritable members
  | _ => true

/-- The integers in the items of an array are within the limit. -/
def areWritable : List Json → Bool
  | [] => true
  | item :: items => item.isWritable && areWritable items

/-- The integers in the values of an object are within the limit. -/
def membersAreWritable : List (Text × Json) → Bool
  | [] => true
  | (_, value) :: members => value.isWritable && membersAreWritable members

end

end Json
end Hotspot
