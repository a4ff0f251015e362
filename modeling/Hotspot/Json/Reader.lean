/-
# Reading JSON

A strict reading but for three numbers beyond the standard, `NaN`, `Infinity`
and `-Infinity`, and for surrogates, which may stand alone. The first fault is
reported with its place.

| fault | place |
| --- | --- |
| no value | where it should start |
| no name in quotes | where it should start |
| no `:` or no `,` | where it should stand |
| an open string | its opening quote |
| a control character | itself |
| an unknown escape | its backslash |
| an incomplete `\uXXXX` | its `u` |
| text after the value | its start |
| a byte order mark | the start |

A numeral of too many digits is refused without a place, and so is a value
inside too many others.
-/

import Hotspot.Json.Basic
import Hotspot.Text.Integer
import Hotspot.Text.Surrogate

namespace Hotspot
namespace Json

/-- What is wrong at a place. -/
inductive Fault
  | value
  | name
  | colon
  | comma
  | openString
  | controlCharacter
  | escape
  | unicodeEscape
  | extra
  | byteOrderMark
  deriving DecidableEq, Repr

/-- The wording of a fault. -/
def Fault.message : Fault → Text
  | .value => "Expecting value"
  | .name => "Expecting property name enclosed in double quotes"
  | .colon => "Expecting ':' delimiter"
  | .comma => "Expecting ',' delimiter"
  | .openString => "Unterminated string starting at"
  | .controlCharacter => "Invalid control character at"
  | .escape => "Invalid \\escape"
  | .unicodeEscape => "Invalid \\uXXXX escape"
  | .extra => "Extra data"
  | .byteOrderMark => "Unexpected UTF-8 BOM (decode using utf-8-sig)"

/-- A value that holds others. -/
inductive Shape
  | array
  | object
  deriving DecidableEq, Repr

/-- How many arrays and objects may be open at once where nothing else is said. -/
def depthLimit : Nat := 990

/-- The wording of the refusal to open one more. -/
def Shape.tooDeepMessage (s : Shape) : Text :=
  let name : Text := match s with
    | .array => "array"
    | .object => "object"
  "maximum recursion depth exceeded while decoding a JSON " ++ name ++ " from a unicode string"

/-- Why a text is no JSON. -/
inductive ReadError
  /-- A fault at an offset. -/
  | faulty (fault : Fault) (offset : Nat)
  /-- A numeral with more digits than the limit. -/
  | tooManyDigits (digits : Nat)
  /-- An array or an object inside too many others. -/
  | tooDeep (shape : Shape)
  deriving DecidableEq, Repr

/-- The line and the column of an offset, both from one on. -/
def place (t : Text) (offset : Nat) : Nat × Nat :=
  let advance (here : Nat × Nat) (c : CodePoint) : Nat × Nat :=
    if c = 0x0A then (here.1 + 1, 1) else (here.1, here.2 + 1)
  (t.take offset).foldl advance (1, 1)

/-- The wording of an error in a text. -/
def ReadError.message (t : Text) : ReadError → Text
  | .faulty fault offset =>
    let (line, column) := place t offset
    fault.message ++ ": line " ++ Text.ofNat line ++ " column " ++ Text.ofNat column ++
      " (char " ++ Text.ofNat offset ++ ")"
  | .tooManyDigits digits => tooManyDigitsRead digits
  | .tooDeep shape => shape.tooDeepMessage

/-- A place in a text: how many code points are behind, and those ahead. -/
structure Cursor where
  offset : Nat
  ahead : Text
  deriving DecidableEq, Repr

namespace Cursor

/-- White space between the parts of a value. -/
def isSpace (c : CodePoint) : Bool :=
  c = 0x20 || c = 0x09 || c = 0x0A || c = 0x0D

/-- The place after white space. -/
def skipSpaceFrom (offset : Nat) : Text → Cursor
  | [] => ⟨offset, []⟩
  | c :: rest => if isSpace c then skipSpaceFrom (offset + 1) rest else ⟨offset, c :: rest⟩

/-- The place after white space. -/
def skipSpace (c : Cursor) : Cursor := skipSpaceFrom c.offset c.ahead

/-- The place after a word, if it stands here. -/
def skipWord? (c : Cursor) (word : Text) : Option Cursor :=
  if word.isPrefixOf c.ahead then some ⟨c.offset + word.length, c.ahead.drop word.length⟩
  else none

/-- A fault here. -/
def fault (c : Cursor) (f : Fault) : Except ReadError α := .error (.faulty f c.offset)

end Cursor

/-! ## Strings -/

/-- The value of a hexadecimal digit. -/
def hexDigit? (c : CodePoint) : Option Nat :=
  let n := c.val
  if 0x30 ≤ n && n ≤ 0x39 then some (n - 0x30)
  else if 0x61 ≤ n && n ≤ 0x66 then some (n - 0x61 + 10)
  else if 0x41 ≤ n && n ≤ 0x46 then some (n - 0x41 + 10)
  else none

/-- Four hexadecimal digits, which something must follow. -/
def hexUnit? : Text → Option (CodePoint × Text)
  | a :: b :: c :: d :: e :: rest =>
    match hexDigit? a, hexDigit? b, hexDigit? c, hexDigit? d with
    | some a, some b, some c, some d =>
      some (CodePoint.ofNat (((a * 16 + b) * 16 + c) * 16 + d), e :: rest)
    | _, _, _, _ => none
  | _ => none

/-- The code point of an escape of one letter. -/
def shortEscape? (c : CodePoint) : Option CodePoint :=
  if c = 0x22 || c = 0x5C || c = 0x2F then some c
  else if c = 0x62 then some 0x08
  else if c = 0x66 then some 0x0C
  else if c = 0x6E then some 0x0A
  else if c = 0x72 then some 0x0D
  else if c = 0x74 then some 0x09
  else none

/-- A low surrogate written as an escape. -/
def lowEscape? : Text → Option (CodePoint × Text)
  | 0x5C :: 0x75 :: rest =>
    match hexUnit? rest with
    | some (low, rest) => if low.isLowSurrogate then some (low, rest) else none
    | none => none
  | _ => none

/-- Four digits that are read are gone, so the reading of a string comes to an end. -/
theorem length_hexUnit? {t rest : Text} {c : CodePoint} (h : hexUnit? t = some (c, rest)) :
    rest.length < t.length := by
  unfold hexUnit? at h
  split at h
  · split at h
    · simp only [Option.some.injEq, Prod.mk.injEq] at h
      simp only [← h.2, List.length_cons]
      omega
    · simp at h
  · simp at h

/-- So it does where a second escape is read for the other half of a pair. -/
theorem length_lowEscape? {t rest : Text} {c : CodePoint} (h : lowEscape? t = some (c, rest)) :
    rest.length < t.length := by
  unfold lowEscape? at h
  split at h
  · split at h
    · next low tail hu =>
      split at h
      · simp only [Option.some.injEq, Prod.mk.injEq] at h
        have := length_hexUnit? hu
        simp only [← h.2, List.length_cons]
        omega
      · simp at h
    · simp at h
  · simp at h

/-- Reads a string from behind its opening quote at `start`; `done` holds the
code points read so far, last first. -/
def readStringFrom (start offset : Nat) (done : Text) (t : Text) :
    Except ReadError (Text × Cursor) :=
  match t with
  | [] => .error (.faulty .openString start)
  | 0x22 :: rest => .ok (done.reverse, ⟨offset + 1, rest⟩)
  | 0x5C :: [] => .error (.faulty .openString start)
  | 0x5C :: 0x75 :: rest =>
    match _h : hexUnit? rest with
    | none => .error (.faulty .unicodeEscape (offset + 1))
    | some (unit, rest') =>
      if unit.isHighSurrogate then
        match _l : lowEscape? rest' with
        | some (low, rest'') => readStringFrom start (offset + 12) (unit.join low :: done) rest''
        | none => readStringFrom start (offset + 6) (unit :: done) rest'
      else readStringFrom start (offset + 6) (unit :: done) rest'
  | 0x5C :: c :: rest =>
    match shortEscape? c with
    | some e => readStringFrom start (offset + 2) (e :: done) rest
    | none => .error (.faulty .escape offset)
  | c :: rest =>
    if c.val < 0x20 then .error (.faulty .controlCharacter offset)
    else readStringFrom start (offset + 1) (c :: done) rest
termination_by t.length
decreasing_by
  · have := length_hexUnit? _h
    have := length_lowEscape? _l
    simp only [List.length_cons]
    omega
  · have := length_hexUnit? _h
    simp only [List.length_cons]
    omega
  · have := length_hexUnit? _h
    simp only [List.length_cons]
    omega
  · simp only [List.length_cons]; omega
  · simp only [List.length_cons]; omega

/-- Reads a string from behind its opening quote. -/
def readString (c : Cursor) : Except ReadError (Text × Cursor) :=
  readStringFrom (c.offset - 1) c.offset [] c.ahead

/-! ## Numbers -/

/-- The digits at the start of a text, and what follows them. -/
def digits (t : Text) : Text × Text :=
  t.span CodePoint.isDigit

/-- The fraction at the start of a text: a point and a digit at least. -/
def fraction? (t : Text) : Option (Text × Text) :=
  match t with
  | 0x2E :: rest =>
    match digits rest with
    | ([], _) => none
    | (f, rest) => some (f, rest)
  | _ => none

/-- A sign of an exponent, how many code points it takes, and what follows. -/
def exponentSign (t : Text) : Bool × Nat × Text :=
  match t with
  | 0x2D :: rest => (true, 1, rest)
  | 0x2B :: rest => (false, 1, rest)
  | _ => (false, 0, t)

/-- The number of a text of digits. -/
def number (t : Text) : Nat :=
  Text.ofDigits (t.map (·.val - 0x30))

/-- So many digits, from the first that is not zero on, tell the double nearest to a
number: no double, and no middle of two neighbouring ones, has as many. -/
def decidingDigits : Nat := 800

/-- The number of some digits, and the power of ten that it counts. Digits behind
those that decide only tell whether there is more. -/
def mantissa (t : Text) : Nat × Nat :=
  let t := t.dropWhile (· = 0x30)
  let n := number (t.take decidingDigits)
  let rest := t.drop decidingDigits
  if rest.all (· = 0x30) then (n, rest.length) else (n * 10 + 1, rest.length - 1)

/-- The double nearest to some digits with a power of ten. -/
def nearestDouble (negative : Bool) (digits : Text) (exponent : Int) : Double :=
  let (n, power) := mantissa digits
  Double.ofDecimal negative n (exponent + power)

/-- No exponent of as many digits, zeros in front left out, leaves a number among the
doubles, whatever digits it is the exponent of. -/
def exponentDigits : Nat := 20

/-- The size of an exponent of some digits, or a size that is as much out of reach. -/
def exponentSize (t : Text) : Nat :=
  let t := t.dropWhile (· = 0x30)
  if exponentDigits ≤ t.length then Double.tenTo exponentDigits else number t

/-- The exponent at the start of a text, `e`, a sign maybe, and a digit at
least; how many code points it takes, and what follows. -/
def exponent? (t : Text) : Option (Int × Nat × Text) :=
  match t with
  | c :: rest =>
    if c = 0x65 || c = 0x45 then
      let (negative, width, rest) := exponentSign rest
      match digits rest with
      | ([], _) => none
      | (e, rest) => some (Text.signed negative (exponentSize e), 1 + width + e.length, rest)
    else none
  | [] => none

/-- The integer part of a number: `0`, or digits that start with another one. -/
def integerPart? (t : Text) : Option (Text × Text) :=
  match t with
  | 0x30 :: rest => some ([0x30], rest)
  | _ =>
    match digits t with
    | ([], _) => none
    | (i, rest) => some (i, rest)

/-- Reads a number. -/
def readNumber (c : Cursor) : Except ReadError (Json × Cursor) :=
  let (negative, t) := match c.ahead with
    | 0x2D :: rest => (true, rest)
    | t => (false, t)
  match integerPart? t with
  | none => c.fault .value
  | some (i, t) =>
    let (f, t) := (fraction? t).getD ([], t)
    let width := negative.toNat + i.length + (if f.isEmpty then 0 else 1 + f.length)
    match exponent? t with
    | some (e, more, t) =>
      .ok (.double (nearestDouble negative (i ++ f) (e - f.length)), ⟨c.offset + width + more, t⟩)
    | none =>
      let after : Cursor := ⟨c.offset + width, t⟩
      if !f.isEmpty then
        .ok (.double (nearestDouble negative (i ++ f) (-f.length)), after)
      else if digitLimit < i.length then .error (.tooManyDigits i.length)
      else .ok (.int (Text.signed negative (number i)), after)

/-! ## Values -/

/-- The words that are values. -/
def words : List (Text × Json) :=
  [("null", .null), ("true", .bool true), ("false", .bool false), ("NaN", .double .nan),
    ("Infinity", .double (.infinite false)), ("-Infinity", .double (.infinite true))]

/-- Reads a word or a number. -/
def readAtom (c : Cursor) : Except ReadError (Json × Cursor) :=
  match words.findSome? fun (word, value) => (c.skipWord? word).map fun c => (value, c) with
  | some result => .ok result
  | none => readNumber c

mutual

/-- Reads a value; `fuel` bounds the steps and twice the length of the text
suffices. So many values as `room` says may be open inside. -/
def readValue (fuel room : Nat) (c : Cursor) : Except ReadError (Json × Cursor) :=
  match fuel with
  | 0 => c.fault .value
  | fuel + 1 =>
    match c.ahead, room with
    | 0x22 :: rest, _ => do
      let (t, c) ← readString ⟨c.offset + 1, rest⟩
      pure (.text t, c)
    | 0x7B :: _, 0 => .error (.tooDeep .object)
    | 0x7B :: rest, room + 1 =>
      let c := Cursor.skipSpace ⟨c.offset + 1, rest⟩
      match c.ahead with
      | 0x7D :: rest => .ok (.object [], ⟨c.offset + 1, rest⟩)
      | _ => do
        let (members, c) ← readMembers fuel room [] c
        pure (.object members, c)
    | 0x5B :: _, 0 => .error (.tooDeep .array)
    | 0x5B :: rest, room + 1 =>
      let c := Cursor.skipSpace ⟨c.offset + 1, rest⟩
      match c.ahead with
      | 0x5D :: rest => .ok (.array [], ⟨c.offset + 1, rest⟩)
      | _ => do
        let (items, c) ← readItems fuel room [] c
        pure (.array items, c)
    | _, _ => readAtom c

/-- Reads the items of an array to its end; `done` holds those read so far,
last first. -/
def readItems (fuel room : Nat) (done : List Json) (c : Cursor) :
    Except ReadError (List Json × Cursor) :=
  match fuel with
  | 0 => c.fault .value
  | fuel + 1 => do
    let (item, c) ← readValue fuel room c
    let c := c.skipSpace
    match c.ahead with
    | 0x5D :: rest => .ok ((item :: done).reverse, ⟨c.offset + 1, rest⟩)
    | 0x2C :: rest => readItems fuel room (item :: done) (Cursor.skipSpace ⟨c.offset + 1, rest⟩)
    | _ => c.fault .comma

/-- Reads the members of an object to its end onto those before. -/
def readMembers (fuel room : Nat) (done : Members) (c : Cursor) :
    Except ReadError (Members × Cursor) :=
  match fuel with
  | 0 => c.fault .value
  | fuel + 1 =>
    match c.ahead with
    | 0x22 :: rest => do
      let (name, c) ← readString ⟨c.offset + 1, rest⟩
      let c := c.skipSpace
      match c.ahead with
      | 0x3A :: rest => do
        let (value, c) ← readValue fuel room (Cursor.skipSpace ⟨c.offset + 1, rest⟩)
        let c := c.skipSpace
        let done := Members.set name value done
        match c.ahead with
        | 0x7D :: rest => .ok (done, ⟨c.offset + 1, rest⟩)
        | 0x2C :: rest => readMembers fuel room done (Cursor.skipSpace ⟨c.offset + 1, rest⟩)
        | _ => c.fault .comma
      | _ => c.fault .colon
    | _ => c.fault .name

end

/-- Reads a text that is one value between white space, in which so many arrays and
objects may be open at once. -/
def readWithin (depth : Nat) (t : Text) : Except ReadError Json :=
  match t with
  | 0xFEFF :: _ => .error (.faulty .byteOrderMark 0)
  | _ => do
    let (value, c) ← readValue (2 * t.length + 2) depth (Cursor.skipSpace ⟨0, t⟩)
    let c := c.skipSpace
    match c.ahead with
    | [] => .ok value
    | _ => c.fault .extra

/-- Reads a text that is one value between white space. -/
def read (t : Text) : Except ReadError Json :=
  readWithin depthLimit t

end Json
end Hotspot
