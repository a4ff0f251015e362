/-
# UTF-8

Encoding of every code point, surrogates included, and two readings of bytes:
a strict one that stops at the first fault and says where it is, and a
replacing one that turns each fault into `U+FFFD`.

| lead byte | second byte | bytes | code points |
| --- | --- | ---: | --- |
| `00 … 7F` | | 1 | `0 … 7F` |
| `C2 … DF` | `80 … BF` | 2 | `80 … 7FF` |
| `E0` | `A0 … BF` | 3 | `800 … FFF` |
| `E1 … EC`, `EE`, `EF` | `80 … BF` | 3 | `1000 … CFFF`, `E000 … FFFF` |
| `ED` | `80 … 9F` | 3 | `D000 … D7FF` |
| `F0` | `90 … BF` | 4 | `10000 … 3FFFF` |
| `F1 … F3` | `80 … BF` | 4 | `40000 … FFFFF` |
| `F4` | `80 … 8F` | 4 | `100000 … 10FFFF` |

A reading may also accept surrogates: `ED`, `A0 … BF`, `80 … BF`.
-/

import Hotspot.Text.Basic

namespace Hotspot
namespace Utf8

/-- How many bytes a code point takes. -/
def width (c : CodePoint) : Nat :=
  if c.val < 0x80 then 1
  else if c.val < 0x800 then 2
  else if c.val < 0x10000 then 3
  else 4

/-- How many bytes a text takes, a surrogate counting three. -/
def size (t : Text) : Nat :=
  t.foldl (fun total c => total + width c) 0

/-- The bytes of one code point. -/
def encodePoint (c : CodePoint) : Bytes :=
  let n := c.val
  if n < 0x80 then
    [UInt8.ofNat n]
  else if n < 0x800 then
    [UInt8.ofNat (0xC0 + n / 0x40), UInt8.ofNat (0x80 + n % 0x40)]
  else if n < 0x10000 then
    [UInt8.ofNat (0xE0 + n / 0x1000), UInt8.ofNat (0x80 + n / 0x40 % 0x40),
      UInt8.ofNat (0x80 + n % 0x40)]
  else
    [UInt8.ofNat (0xF0 + n / 0x40000), UInt8.ofNat (0x80 + n / 0x1000 % 0x40),
      UInt8.ofNat (0x80 + n / 0x40 % 0x40), UInt8.ofNat (0x80 + n % 0x40)]

/-- A code point takes as many bytes as its width says. -/
theorem length_encodePoint (c : CodePoint) : (encodePoint c).length = width c := by
  simp only [encodePoint, width]
  split
  · rfl
  · split
    · rfl
    · split <;> rfl

/-- The bytes of a text. -/
def encode (t : Text) : Bytes :=
  t.flatMap encodePoint

/-- Why bytes are not UTF-8. -/
inductive Reason
  /-- The byte opens no sequence. -/
  | invalidStart
  /-- A sequence is broken off by a byte that does not continue it. -/
  | invalidContinuation
  /-- The data ends inside a sequence. -/
  | unexpectedEnd
  deriving DecidableEq, Repr

/-- The bytes of a text that are not UTF-8: `width` of them, from `offset` on,
the first being `lead`. -/
structure Fault where
  offset : Nat
  width : Nat
  lead : UInt8
  reason : Reason
  deriving DecidableEq, Repr

/-- The wording of a reason. -/
def Reason.message : Reason → Text
  | .invalidStart => "invalid start byte"
  | .invalidContinuation => "invalid continuation byte"
  | .unexpectedEnd => "unexpected end of data"

/-- The wording of a fault: one byte is quoted, several are given by the
offsets of the first and the last. -/
def Fault.message (f : Fault) : Text :=
  let place : Text :=
    if f.width = 1 then
      "byte 0x" ++ Text.ofHex 2 f.lead.toNat ++ " in position " ++ Text.ofNat f.offset
    else
      "bytes in position " ++ Text.ofNat f.offset ++ "-" ++ Text.ofNat (f.offset + f.width - 1)
  "'utf-8' codec can't decode " ++ place ++ ": " ++ f.reason.message

/-- A byte `80 … BF`. -/
def isTrail (b : UInt8) : Bool :=
  0x80 ≤ b && b ≤ 0xBF

/-- What a lead byte of a longer sequence announces: its own payload bits, the
range of the second byte, and how many trail bytes follow that one. -/
structure Lead where
  payload : Nat
  low : UInt8
  high : UInt8
  more : Nat
  deriving DecidableEq, Repr

/-- The announcement of a byte that opens a sequence of two bytes or more. -/
def lead? (b : UInt8) : Option Lead :=
  if 0xC2 ≤ b && b ≤ 0xDF then some ⟨b.toNat - 0xC0, 0x80, 0xBF, 0⟩
  else if b = 0xE0 then some ⟨0x0, 0xA0, 0xBF, 1⟩
  else if b = 0xED then some ⟨0xD, 0x80, 0x9F, 1⟩
  else if 0xE1 ≤ b && b ≤ 0xEF then some ⟨b.toNat - 0xE0, 0x80, 0xBF, 1⟩
  else if b = 0xF0 then some ⟨0x0, 0x90, 0xBF, 2⟩
  else if b = 0xF4 then some ⟨0x4, 0x80, 0x8F, 2⟩
  else if 0xF1 ≤ b && b ≤ 0xF3 then some ⟨b.toNat - 0xF0, 0x80, 0xBF, 2⟩
  else none

/-- The outcome of reading one sequence: a code point, or a fault over the
first `width` bytes; either way with the bytes that follow. -/
inductive Step
  | point (c : CodePoint) (rest : Bytes)
  | fault (reason : Reason) (width : Nat) (rest : Bytes)
  deriving DecidableEq, Repr

/-- The bytes after a step. -/
def Step.rest : Step → Bytes
  | .point _ rest => rest
  | .fault _ _ rest => rest

/-- Reads `more` trail bytes onto the payload of the `width` bytes before. -/
def trail (more payload width : Nat) (bytes : Bytes) : Step :=
  match more, bytes with
  | 0, bytes => .point (CodePoint.ofNat payload) bytes
  | _ + 1, [] => .fault .unexpectedEnd width []
  | more + 1, b :: bytes =>
    if isTrail b then trail more (payload * 0x40 + (b.toNat - 0x80)) (width + 1) bytes
    else .fault .invalidContinuation width (b :: bytes)

/-- Reads one sequence from a first byte and those after it. -/
def step (b : UInt8) (bytes : Bytes) : Step :=
  if b < 0x80 then .point (CodePoint.ofNat b.toNat) bytes
  else
    match lead? b with
    | none => .fault .invalidStart 1 bytes
    | some lead =>
      match bytes with
      | [] => .fault .unexpectedEnd 1 []
      | second :: bytes =>
        if lead.low ≤ second && second ≤ lead.high then
          trail lead.more (lead.payload * 0x40 + (second.toNat - 0x80)) 2 bytes
        else .fault .invalidContinuation 1 (second :: bytes)

/-- As `step`; if `surrogates` are accepted, `ED` may also open one of them. -/
def stepWith (surrogates : Bool) (b : UInt8) (bytes : Bytes) : Step :=
  match surrogates, b, bytes with
  | true, 0xED, second :: third :: rest =>
    if 0xA0 ≤ second && second ≤ 0xBF && isTrail third then
      .point (CodePoint.ofNat (0xD000 + (second.toNat - 0x80) * 0x40 + (third.toNat - 0x80))) rest
    else step b bytes
  | _, _, _ => step b bytes

/-- Reading the bytes behind the first one of a sequence puts none back. -/
theorem length_rest_trail (more payload width : Nat) (bytes : Bytes) :
    (trail more payload width bytes).rest.length ≤ bytes.length := by
  induction more generalizing payload width bytes with
  | zero => simp [trail, Step.rest]
  | succ more ih =>
    cases bytes with
    | nil => simp [trail, Step.rest]
    | cons b bytes =>
      simp only [trail]
      split
      · exact Nat.le_succ_of_le (ih ..)
      · simp [Step.rest]

/-- A step consumes its first byte, at least. -/
theorem length_rest_step (b : UInt8) (bytes : Bytes) :
    (step b bytes).rest.length ≤ bytes.length := by
  simp only [step]
  split
  · simp [Step.rest]
  · split
    · simp [Step.rest]
    · split
      · simp [Step.rest]
      · split
        · exact Nat.le_succ_of_le (length_rest_trail ..)
        · simp [Step.rest]

/-- So does one that may let surrogates pass, on which the recursion of the decoders rests. -/
theorem length_rest_stepWith (surrogates : Bool) (b : UInt8) (bytes : Bytes) :
    (stepWith surrogates b bytes).rest.length ≤ bytes.length := by
  simp only [stepWith]
  split
  · split
    · simp only [Step.rest, List.length_cons]; omega
    · exact length_rest_step ..
  · exact length_rest_step ..

/-- Reads to the end or to the first fault; `done` holds the code points read
so far, last first, and `offset` counts the bytes they took. -/
def decodeFrom (surrogates : Bool) (offset : Nat) (done : Text) : Bytes → Except Fault Text
  | [] => .ok done.reverse
  | b :: bytes =>
    match _h : stepWith surrogates b bytes with
    | .point c rest => decodeFrom surrogates (offset + width c) (c :: done) rest
    | .fault reason width _ => .error ⟨offset, width, b, reason⟩
termination_by bytes => bytes.length
decreasing_by
  have := length_rest_stepWith surrogates b bytes
  simp only [_h, Step.rest] at this
  simp only [List.length_cons]
  omega

/-- The text of bytes that are UTF-8. -/
def decode (bytes : Bytes) : Except Fault Text :=
  decodeFrom false 0 [] bytes

/-- The text of bytes that are UTF-8 but for surrogates, which are accepted. -/
def decodePassing (bytes : Bytes) : Except Fault Text :=
  decodeFrom true 0 [] bytes

/-- Reads to the end with `U+FFFD` for each fault; `done` as in `decodeFrom`. -/
def decodeReplacingFrom (done : Text) : Bytes → Text
  | [] => done.reverse
  | b :: bytes =>
    match _h : step b bytes with
    | .point c rest => decodeReplacingFrom (c :: done) rest
    | .fault _ _ rest => decodeReplacingFrom (0xFFFD :: done) rest
termination_by bytes => bytes.length
decreasing_by
  all_goals
    have := length_rest_step b bytes
    simp only [_h, Step.rest] at this
    simp only [List.length_cons]
    omega

/-- The text of any bytes: each fault reads as one `U+FFFD`. -/
def decodeReplacing (bytes : Bytes) : Text :=
  decodeReplacingFrom [] bytes

end Utf8
end Hotspot
