/-
# Text as code points, data as bytes

Network names and keys come from byte files and from the command line, where a
surrogate code point may stand alone. `String` holds scalar values only, so a
text is a list of code points `0 … 10FFFF`, surrogates included.

| range | name |
| --- | --- |
| `D800 … DBFF` | high surrogate |
| `DC00 … DFFF` | low surrogate |
| `10000 … 10FFFF` | supplementary, one high and one low surrogate in UTF-16 |
-/

namespace Hotspot

/-- A Unicode code point; the surrogates are code points too. -/
abbrev CodePoint := Fin 0x110000

/-- There are code points. -/
instance instNeZeroCodePoints : @NeZero Nat Zero.ofOfNat0 0x110000 :=
  @NeZero.mk Nat Zero.ofOfNat0 0x110000 (Nat.succ_ne_zero 0x10FFFF)

/-- A sequence of code points. -/
abbrev Text := List CodePoint

/-- The content of a file. -/
abbrev Bytes := List UInt8

namespace CodePoint

/-- The code point of a number, and the replacement character for a number
that is none. -/
def ofNat (n : Nat) : CodePoint :=
  if h : n < 0x110000 then ⟨n, h⟩ else 0xFFFD

/-- A number below the bound of the code points is the number of its code point. -/
theorem val_ofNat {n : Nat} (h : n < 0x110000) : (ofNat n).val = n := by
  simp [ofNat, h]

/-- Every character is a code point. -/
def ofChar (c : Char) : CodePoint :=
  ⟨c.toNat, by
    have h := c.valid
    simp only [UInt32.isValidChar, Nat.isValidChar] at h
    simp only [Char.toNat]
    omega⟩

/-- A code unit that opens a surrogate pair. -/
def isHighSurrogate (c : CodePoint) : Bool :=
  0xD800 ≤ c.val && c.val ≤ 0xDBFF

/-- A code unit that closes a surrogate pair. -/
def isLowSurrogate (c : CodePoint) : Bool :=
  0xDC00 ≤ c.val && c.val ≤ 0xDFFF

/-- Either half of a surrogate pair. -/
def isSurrogate (c : CodePoint) : Bool :=
  0xD800 ≤ c.val && c.val ≤ 0xDFFF

/-- The character of a code point that is a scalar value. -/
def toChar? (c : CodePoint) : Option Char :=
  if c.isSurrogate then none else some (Char.ofNat c.val)

/-- A digit `0 … 9`. -/
def isDigit (c : CodePoint) : Bool :=
  0x30 ≤ c.val && c.val ≤ 0x39

end CodePoint

namespace Text

/-- The code points of a string. -/
def ofString (s : String) : Text :=
  s.toList.map CodePoint.ofChar

instance : Coe String Text := ⟨ofString⟩

/-- The string of a text without surrogates. -/
def toString? (t : Text) : Option String :=
  (t.mapM CodePoint.toChar?).map String.ofList

/-- A number in decimal, without leading zeros. -/
def ofNat (n : Nat) : Text :=
  (Nat.toDigits 10 n).map CodePoint.ofChar

/-- A number in decimal, after a minus sign if it is negative. -/
def ofInt (i : Int) : Text :=
  if i < 0 then 0x2D :: ofNat i.natAbs else ofNat i.natAbs

/-- A number in lower-case hexadecimal, zero-padded to `width` digits. -/
def ofHex (width n : Nat) : Text :=
  let digits := (Nat.toDigits 16 n).map CodePoint.ofChar
  List.replicate (width - digits.length) 0x30 ++ digits

/-- Some code point of the text is a surrogate, so UTF-8 proper cannot write it. -/
def hasSurrogate (t : Text) : Bool :=
  t.any CodePoint.isSurrogate

/-- The pieces between the occurrences of a separator; always at least one. -/
def splitOn (separator : CodePoint) (t : Text) : List Text :=
  t.foldr (fun c pieces =>
    if c = separator then [] :: pieces
    else match pieces with
      | piece :: rest => (c :: piece) :: rest
      | [] => [[c]]) [[]]

/-- Pieces with a separator between any two. -/
def joinWith (separator : Text) (pieces : List Text) : Text :=
  separator.intercalate pieces

/-- A text without the code points at its end that satisfy a test. -/
def dropRightWhile (p : CodePoint → Bool) (t : Text) : Text :=
  (t.reverse.dropWhile p).reverse

/-- A text without the code points at either end that satisfy a test. -/
def dropAroundWhile (p : CodePoint → Bool) (t : Text) : Text :=
  dropRightWhile p (t.dropWhile p)

/-- The order of texts by their code points. -/
def ble (a b : Text) : Bool :=
  !(List.lex b a)

end Text

end Hotspot
