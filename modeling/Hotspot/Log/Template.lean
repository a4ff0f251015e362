/-
# Message templates

A template is filled with arguments. A placeholder is

    % [(name)] flags [width] [.precision] [h l L] conversion

and `%%` is a per cent sign, which takes no argument. A `*` for the width or the
precision takes an argument of its own. A name looks a member up, which then is
all there is to take.

| arguments | to take | names |
| --- | --- | --- |
| texts | each in turn, and all of them | none |
| one object | the object | its members |
| one array | the array | none, but they are tried |
| one other value | the value, which has to be taken | none |
-/

import Hotspot.Log.Conversion

namespace Hotspot
namespace Log
namespace Template

/-- Why a template cannot be filled. -/
inductive FillError
  /-- Arguments are left over. -/
  | tooMany
  /-- There is no argument left. -/
  | tooFew
  /-- A name, where arguments have none. -/
  | wantsNames
  /-- A name, where arguments have places. -/
  | wantsPlaces
  /-- A name without a member. -/
  | missing (name : Text)
  /-- A `*` for another value than an integer. -/
  | starKind
  /-- A `*` for a width beyond all bounds. -/
  | starWidth
  /-- A `*` for a precision beyond all bounds. -/
  | starPrecision
  /-- An argument that cannot be converted. -/
  | argument (fault : Conversion.Fault)
  /-- The template ends inside a placeholder. -/
  | incomplete
  /-- The template ends inside a name. -/
  | incompleteName
  /-- A width beyond all bounds. -/
  | widthTooBig
  /-- A precision beyond all bounds. -/
  | precisionTooBig
  /-- An unknown conversion at an offset. -/
  | unknown (conversion : CodePoint) (offset : Nat)
  deriving DecidableEq, Repr

/-- The wording of an error. -/
def FillError.message : FillError → Text
  | .tooMany => "not all arguments converted during string formatting"
  | .tooFew => "not enough arguments for format string"
  | .wantsNames => "format requires a mapping"
  | .wantsPlaces => "list indices must be integers or slices, not str"
  | .missing name => name.quoted
  | .starKind => "* wants int"
  | .starWidth => "Python int too large to convert to C ssize_t"
  | .starPrecision => "Python int too large to convert to C int"
  | .argument fault => fault.message
  | .incomplete => "incomplete format"
  | .incompleteName => "incomplete format key"
  | .widthTooBig => "width too big"
  | .precisionTooBig => "precision too big"
  | .unknown conversion offset =>
    let shown := if 31 ≤ conversion.val ∧ conversion.val ≤ 126 then conversion else 0x3F
    "unsupported format character '" ++ (shown :: ("' (0x" : Text)) ++
      Text.ofHex 0 conversion.val ++ ") at index " ++ Text.ofNat offset

/-- The arguments that are left to take, and what names are looked up in. -/
structure Supply where
  items : List Value
  names : Option Json := none
  deriving Repr

namespace Supply

/-- Texts, one after the other. -/
def ofTexts (ts : List Text) : Supply where
  items := ts.map .text

/-- One value, with names if it has members or items. -/
def ofValue (v : Value) : Supply where
  items := [v]
  names := match v with
    | .json (.object members) => some (.object members)
    | .json (.array items) => some (.array items)
    | _ => none

/-- Takes an argument. -/
def take (s : Supply) : Except FillError (Value × Supply) :=
  match s.items with
  | [] => .error .tooFew
  | item :: items => .ok (item, { s with items })

/-- Goes over to the value of a name. -/
def lookUp (s : Supply) (name : Text) : Except FillError Supply :=
  match s.names with
  | some (.object members) =>
    match Json.Members.get? members name with
    | some value => .ok { s with items := [.json value] }
    | none => .error (.missing name)
  | some _ => .error .wantsPlaces
  | none => .error .wantsNames

/-- Nothing has to be taken any more. -/
def isUsed (s : Supply) : Bool := s.items.isEmpty || s.names.isSome

end Supply

/-- The greatest width. -/
def widthLimit : Nat := 0x7FFFFFFFFFFFFFFF

/-- The greatest precision. -/
def precisionLimit : Nat := 0x7FFFFFFF

/-- A place in a template: how many code points are behind, and those ahead. -/
structure Cursor where
  offset : Nat
  ahead : Text
  deriving DecidableEq, Repr

/-- Reads a name up to the parenthesis that closes as many as are open. -/
def readName (offset opened : Nat) (name : Text) : Text → Except FillError (Text × Cursor)
  | [] => .error .incompleteName
  | c :: rest =>
    if c = 0x28 then readName (offset + 1) (opened + 1) (c :: name) rest
    else if c = 0x29 then
      match opened with
      | 0 | 1 => .ok (name.reverse, ⟨offset + 1, rest⟩)
      | opened + 1 => readName (offset + 1) opened (c :: name) rest
    else readName (offset + 1) opened (c :: name) rest

/-- Reads the flags of a placeholder. -/
def readFlags (offset : Nat) (p : Placeholder) : Text → Placeholder × Cursor
  | [] => (p, ⟨offset, []⟩)
  | c :: rest =>
    if c = 0x2D then readFlags (offset + 1) { p with left := true } rest
    else if c = 0x2B then readFlags (offset + 1) { p with plus := true } rest
    else if c = 0x20 then readFlags (offset + 1) { p with blank := true } rest
    else if c = 0x23 then readFlags (offset + 1) { p with alternate := true } rest
    else if c = 0x30 then readFlags (offset + 1) { p with zeros := true } rest
    else (p, ⟨offset, c :: rest⟩)

/-- Reads the digits of a number up to a limit. -/
def readNumber (limit : Nat) (excess : FillError) (offset n : Nat) :
    Text → Except FillError (Nat × Cursor)
  | [] => .ok (n, ⟨offset, []⟩)
  | c :: rest =>
    if c.isDigit then
      if (limit - (c.val - 0x30)) / 10 < n then .error excess
      else readNumber limit excess (offset + 1) (n * 10 + (c.val - 0x30)) rest
    else .ok (n, ⟨offset, c :: rest⟩)

/-- Takes the integer of a `*`, up to a limit. -/
def takeStar (limit : Nat) (excess : FillError) (s : Supply) :
    Except FillError (Int × Supply) := do
  let (argument, s) ← s.take
  let i ← match argument with
    | .json (.int i) => pure i
    | .json (.bool b) => pure (if b then 1 else 0)
    | _ => throw .starKind
  if i < -(limit : Int) - 1 ∨ (limit : Int) < i then throw excess
  pure (i, s)

/-- Reads the width of a placeholder. A negative one stands for its size on the
left. -/
def readWidth (p : Placeholder) (s : Supply) (c : Cursor) :
    Except FillError (Placeholder × Supply × Cursor) :=
  match c.ahead with
  | 0x2A :: rest => do
    let (i, s) ← takeStar widthLimit .starWidth s
    pure ({ p with width := i.natAbs, left := p.left || decide (i < 0) }, s, ⟨c.offset + 1, rest⟩)
  | _ => do
    let (width, c) ← readNumber widthLimit .widthTooBig c.offset 0 c.ahead
    pure ({ p with width }, s, c)

/-- Reads the precision of a placeholder. A point alone is precision zero, and
so is a negative one. -/
def readPrecision (p : Placeholder) (s : Supply) (c : Cursor) :
    Except FillError (Placeholder × Supply × Cursor) :=
  match c.ahead with
  | 0x2E :: 0x2A :: rest => do
    let (i, s) ← takeStar precisionLimit .starPrecision s
    pure ({ p with precision := some i.toNat }, s, ⟨c.offset + 2, rest⟩)
  | 0x2E :: rest => do
    let (precision, c) ← readNumber precisionLimit .precisionTooBig (c.offset + 1) 0 rest
    pure ({ p with precision := some precision }, s, c)
  | _ => .ok (p, s, c)

/-- Skips a mark of a number's size. -/
def skipSize (c : Cursor) : Cursor :=
  match c.ahead with
  | d :: rest => if d = 0x68 || d = 0x6C || d = 0x4C then ⟨c.offset + 1, rest⟩ else c
  | [] => c

/-- Reads the name at the start of a placeholder, if it has one. -/
def readLookUp (s : Supply) (c : Cursor) : Except FillError (Supply × Cursor) :=
  match c.ahead with
  | 0x28 :: rest =>
    if s.names.isNone then .error .wantsNames
    else do
      let (name, c) ← readName (c.offset + 1) 1 [] rest
      pure (← s.lookUp name, c)
  | _ => .ok (s, c)

/-- Reads a placeholder from behind its per cent sign up to its conversion. -/
def readPlaceholder (s : Supply) (c : Cursor) :
    Except FillError (Placeholder × Supply × Cursor) := do
  let (s, c) ← readLookUp s c
  let (p, c) := readFlags c.offset {} c.ahead
  let (p, s, c) ← readWidth p s c
  let (p, s, c) ← readPrecision p s c
  pure (p, s, skipSize c)

/-- The text of the next argument under a conversion at an offset. -/
def convertNext (p : Placeholder) (s : Supply) (letter : CodePoint) (offset : Nat) :
    Except FillError (Text × Supply) := do
  let (argument, s) ← s.take
  match Conversion.letters.lookup letter with
  | some conversion =>
    pure (← (p.convert letter conversion argument).mapError .argument, s)
  | none => throw (.unknown letter offset)

/-- Fills a template from a place on; `fuel` bounds the steps and the length of
the rest suffices. -/
def fillFrom (fuel : Nat) (done : Text) (s : Supply) (c : Cursor) : Except FillError Text :=
  match fuel with
  | 0 => .ok done.reverse
  | fuel + 1 =>
    match c.ahead with
    | [] => if s.isUsed then .ok done.reverse else .error .tooMany
    | 0x25 :: 0x25 :: rest => fillFrom fuel (0x25 :: done) s ⟨c.offset + 2, rest⟩
    | 0x25 :: rest => do
      let (p, s, c) ← readPlaceholder s ⟨c.offset + 1, rest⟩
      match c.ahead with
      | [] => .error .incomplete
      | letter :: rest => do
        let (t, s) ← convertNext p s letter c.offset
        fillFrom fuel (t.reverse ++ done) s ⟨c.offset + 1, rest⟩
    | d :: rest => fillFrom fuel (d :: done) s ⟨c.offset + 1, rest⟩

/-- Fills a template. -/
def fill (template : Text) (s : Supply) : Except FillError Text :=
  fillFrom (template.length + 1) [] s ⟨0, template⟩

end Template
end Log
end Hotspot
