/-
# Names of overlay members

The members of an overlay have texts for names. What is given in place of an
overlay may bring names of other kinds; nobody asks for those, but they are kept.

| names | same | order |
| --- | --- | --- |
| two texts | the same code points | by code points |
| two numbers, truth values among them | the same number | by size |
| `null` twice | yes | none |
| two others | no | none |

A double that is no number is the same as itself and comes before nothing.
-/

import Hotspot.Json.Basic

namespace Hotspot
namespace Overlay

/-- The name of a member. -/
inductive Name
  | text (t : Text)
  | bool (b : Bool)
  | int (i : Int)
  | double (d : Double)
  | null
  deriving DecidableEq, Repr

/-- What a name is as a number. -/
inductive Size
  | undefined
  | infinite (negative : Bool)
  /-- So many times the least positive double. -/
  | finite (units : Int)
  deriving DecidableEq, Repr

namespace Size

/-- The size of an integer. -/
def ofInt (i : Int) : Size :=
  .finite (i * Double.twoTo (-Double.minExponent).toNat)

/-- The size of a double. -/
def ofDouble : Double → Size
  | .nan => .undefined
  | .infinite negative => .infinite negative
  | .finite negative m e =>
    let units : Int := m * Double.twoTo (e - Double.minExponent).toNat
    .finite (if negative then -units else units)

/-- The order of sizes. -/
def less : Size → Size → Bool
  | .finite a, .finite b => a < b
  | .infinite a, .infinite b => a && !b
  | .infinite a, .finite _ => a
  | .finite _, .infinite b => !b
  | .undefined, _ | _, .undefined => false

end Size

/-- Two names that have no order, by their kinds. -/
structure NoOrder where
  left : Text
  right : Text
  deriving DecidableEq, Repr

/-- The wording of the refusal to order two names. -/
def NoOrder.message (e : NoOrder) : Text :=
  "'<' not supported between instances of '" ++ e.left ++ "' and '" ++ e.right ++ "'"

namespace Name

/-- The name that a value is. Arrays and objects are none. -/
def ofJson? : Json → Option Name
  | .text t => some (.text t)
  | .bool b => some (.bool b)
  | .int i => some (.int i)
  | .double d => some (.double d)
  | .null => some .null
  | .array _ | .object _ => none

/-- A name as a value. -/
def toJson : Name → Json
  | .text t => .text t
  | .bool b => .bool b
  | .int i => .int i
  | .double d => .double d
  | .null => .null

/-- The word for the kind of a name. -/
def kindName (name : Name) : Text := name.toJson.kindName

/-- The text that a name is. -/
def text? : Name → Option Text
  | .text t => some t
  | _ => none

/-- The size of a name that is a number. -/
def size? : Name → Option Size
  | .bool b => some (.ofInt b.toInt)
  | .int i => some (.ofInt i)
  | .double d => some (.ofDouble d)
  | .text _ | .null => none

/-- Two names are the same. -/
def same (a b : Name) : Bool :=
  match a.size?, b.size? with
  | some s, some t => s = t
  | _, _ => a = b

/-- A name comes before another one. -/
def less (a b : Name) : Except NoOrder Bool :=
  match a, b with
  | .text s, .text t => .ok (!Text.ble t s)
  | _, _ =>
    match a.size?, b.size? with
    | some s, some t => .ok (s.less t)
    | _, _ => .error ⟨a.kindName, b.kindName⟩

end Name
end Overlay
end Hotspot
