/-
# Surrogate pairs

A supplementary code point `10000 … 10FFFF` and a pair of a high and a low
surrogate carry the same twenty bits. `split` and `join` are the two
directions, and `joinPairs` joins every pair of a text; a surrogate that stands
alone is kept.
-/

import Hotspot.Text.Basic

namespace Hotspot
namespace CodePoint

/-- The two surrogates of a supplementary code point, high then low. -/
def split (c : CodePoint) : CodePoint × CodePoint :=
  (ofNat (0xD800 + (c.val - 0x10000) / 0x400), ofNat (0xDC00 + (c.val - 0x10000) % 0x400))

/-- The supplementary code point of a high and a low surrogate. -/
def join (high low : CodePoint) : CodePoint :=
  ofNat (0x10000 + (high.val - 0xD800) * 0x400 + (low.val - 0xDC00))

end CodePoint

namespace Text

/-- Puts a code point before a text, joining it with the head where the two
are a pair. -/
def glue (c : CodePoint) (t : Text) : Text :=
  match t with
  | d :: rest => if c.isHighSurrogate && d.isLowSurrogate then c.join d :: rest else c :: t
  | [] => [c]

/-- Joins each high surrogate with a low surrogate right after it. -/
def joinPairs (t : Text) : Text :=
  t.foldr glue []

@[simp] theorem joinPairs_nil : joinPairs [] = [] := rfl

@[simp] theorem joinPairs_cons (c : CodePoint) (t : Text) :
    joinPairs (c :: t) = glue c (joinPairs t) := rfl

end Text
end Hotspot
