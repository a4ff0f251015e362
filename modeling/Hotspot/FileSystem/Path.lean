/-
# Paths

A path is where it starts and the names along it. Repeated slashes, a slash at
the end and the name `.` are dropped; `..` is kept, since what it leads to
depends on what is there.

| text | path |
| --- | --- |
| `a//b/./c/` | `a/b/c` |
| the empty text | `.` |
| `//a` | `//a` |
| `///a` | `/a` |
-/

import Hotspot.Text.Quoted
import Hotspot.Utf8

namespace Hotspot

/-- Where a path starts: the working directory, the root, or the root written
with two slashes. -/
inductive Path.Start
  | here
  | root
  | doubleRoot
  deriving DecidableEq, Repr

/-- A path. -/
structure Path where
  start : Path.Start
  names : List Text
  deriving DecidableEq, Repr

namespace Path

/-- The name that leads upwards. -/
def up : Text := ".."

/-- The path of a text. -/
def ofText (t : Text) : Path where
  start := match t with
    | 0x2F :: 0x2F :: 0x2F :: _ => .root
    | 0x2F :: 0x2F :: _ => .doubleRoot
    | 0x2F :: _ => .root
    | _ => .here
  names := (Text.splitOn 0x2F t).filter fun name => name ≠ [] ∧ name ≠ [0x2E]

/-- The text of a path. -/
def text (p : Path) : Text :=
  let names := Text.joinWith "/" p.names
  match p.start with
  | .here => if p.names.isEmpty then "." else names
  | .root => "/" ++ names
  | .doubleRoot => "//" ++ names

/-- The word for the kind of a path. -/
def kindName : Text := "PosixPath"

/-- The text of a path with its kind, as `PosixPath('a/b')`. -/
def quoted (p : Path) : Text :=
  kindName ++ "(" ++ p.text.quoted ++ ")"

/-- The last name of a path. -/
def name? (p : Path) : Option Text := p.names.getLast?

/-- The path without its last name. -/
def parent (p : Path) : Path := { p with names := p.names.dropLast }

/-- The path with a suffix to its last name. -/
def addSuffix? (p : Path) (suffix : Text) : Option Path :=
  p.name?.map fun name => { p with names := p.names.dropLast ++ [name ++ suffix] }

/-! ## Bytes

A file name is bytes. A text stands for bytes that are no UTF-8 by low
surrogates `DC80 … DCFF`, one a byte; it has no bytes if it holds any other
surrogate, and it cannot be handed over if it holds a `NUL`. -/

/-- A surrogate that stands for a byte. -/
def isByteSurrogate (c : CodePoint) : Bool := 0xDC80 ≤ c.val && c.val ≤ 0xDCFF

/-- The bytes of a code point in a file name. -/
def pointBytes (c : CodePoint) : Bytes :=
  if isByteSurrogate c then [UInt8.ofNat (c.val - 0xDC00)] else Utf8.encodePoint c

/-- The bytes of a text as a file name. -/
def bytes (t : Text) : Bytes :=
  t.flatMap pointBytes

/-- Why a text is no file name. -/
inductive NameFault
  /-- A `NUL`. -/
  | nul
  /-- Surrogates without bytes: so many from an offset on, and the first. -/
  | surrogates (offset width : Nat) (first : CodePoint)
  deriving DecidableEq, Repr

/-- The wording of a fault. -/
def NameFault.message : NameFault → Text
  | .nul => "embedded null byte"
  | .surrogates offset width first =>
    let place : Text :=
      if width = 1 then
        "character '\\u" ++ Text.ofHex 4 first.val ++ "' in position " ++ Text.ofNat offset
      else
        "characters in position " ++ Text.ofNat offset ++ "-" ++ Text.ofNat (offset + width - 1)
    "'utf-8' codec can't encode " ++ place ++ ": surrogates not allowed"

/-- The first surrogates without bytes. A run of surrogates is at fault from
the first such one to its end. -/
def surrogatesFrom? (offset : Nat) : Text → Option NameFault
  | [] => none
  | c :: rest =>
    if c.isSurrogate && !isByteSurrogate c then
      some (.surrogates offset (1 + (rest.takeWhile CodePoint.isSurrogate).length) c)
    else surrogatesFrom? (offset + 1) rest

/-- The fault of a path, if it has one. -/
def nameFault? (p : Path) : Option NameFault :=
  match surrogatesFrom? 0 p.text with
  | some fault => some fault
  | none => if p.text.contains 0 then some .nul else none

end Path
end Hotspot
