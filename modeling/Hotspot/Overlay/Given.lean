/-
# Overlays that are given

An overlay is given as a value, together with overrides.

| value | members it sets |
| --- | --- |
| `null`, `false`, zero, or empty | none |
| an object | its own |
| an array | one for each item |

An item is a name and a value. It is an array of the two, a text of two code
points, or an object of two members, whose names are taken. An array or an
object is no name.

Overrides are an object. Its names must not be those of the two parts that an
overlay is made from.
-/

import Hotspot.Overlay.Basic

namespace Hotspot
namespace Overlay

/-- Why no overlay comes of what is given. -/
inductive GivenError
  /-- The value has no items. -/
  | value (e : NotAList)
  /-- An item that has no parts. -/
  | item (index : Nat)
  /-- An item that has not two parts. -/
  | parts (index count : Nat)
  /-- A name of a kind that no name can be of. -/
  | nameKind (kind : Text)
  /-- Overrides that are no object. -/
  | overrides (kind : Text)
  /-- An override of a name that is taken. -/
  | taken (name : Text)
  deriving DecidableEq, Repr

/-- The wording of an error. -/
def GivenError.message : GivenError → Text
  | .value e => e.message
  | .item index =>
    "cannot convert dictionary update sequence element #" ++ Text.ofNat index ++ " to a sequence"
  | .parts index count =>
    "dictionary update sequence element #" ++ Text.ofNat index ++ " has length " ++
      Text.ofNat count ++ "; 2 is required"
  | .nameKind kind => "unhashable type: '" ++ kind ++ "'"
  | .overrides kind =>
    "softap_configd.provider.StaticConfigProvider() argument after ** must be a mapping, not " ++
      kind
  | .taken name =>
    "StaticConfigProvider.__init__() got multiple values for argument " ++ name.quoted

/-- The parts of a value: items, code points, or names. -/
def parts? : Json → Option (List Json)
  | .array items => some items
  | .text t => some (t.map fun c => .text [c])
  | .object members => some (members.map fun m => .text m.1)
  | _ => none

/-- Sets the member of a name. -/
def setMember (o : Overlay) (name value : Json) : Except GivenError Overlay :=
  match Name.ofJson? name with
  | some name => .ok { o with members := o.members.set name value }
  | none => .error (.nameKind name.kindName)

/-- Sets the member of an item. -/
def setItem (o : Overlay) (item : Json × Nat) : Except GivenError Overlay :=
  match parts? item.1 with
  | none => .error (.item item.2)
  | some [name, value] => o.setMember name value
  | some parts => .error (.parts item.2 parts.length)

/-- The overlay of a value over the standard one. -/
def ofValue (value : Json) : Except GivenError Overlay :=
  if !value.truthy then .ok (ofMembers [])
  else
    match value, parts? value with
    | .object members, _ => .ok (ofMembers members)
    | _, some items => items.zipIdx.foldlM setItem (ofMembers [])
    | _, none => .error (.value ⟨value.kindName⟩)

/-- The names of the two parts that an overlay is made from. -/
def takenNames : List Text := ["self", "overlay"]

/-- The members of overrides. -/
def overridesOf (overrides : Json) : Except GivenError Json.Members :=
  match overrides with
  | .object members =>
    match members.find? fun m => takenNames.contains m.1 with
    | some (name, _) => .error (.taken name)
    | none => .ok members
  | _ => .error (.overrides overrides.kindName)

/-- The overlay of a value, and overrides to it. -/
def ofGiven (value overrides : Json) : Except GivenError Overlay := do
  let members ← overridesOf overrides
  let o ← ofValue value
  pure { o with members := o.members.merge members }

end Overlay
end Hotspot
