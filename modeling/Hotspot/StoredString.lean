/-
# Strings of the configuration file

The file holds its strings in modified UTF-8, the form `writeUTF` of a data
output stream gives them:

| code point | unit |
| --- | --- |
| `0` | `C0 80` |
| `1 … FFFF`, surrogates included | its UTF-8, one to three bytes |
| `10000 … 10FFFF` | its two surrogates, three bytes each |

Reading is more lenient than writing: a byte `00` and four-byte UTF-8 are
accepted too, so a string may have several written forms but only one is
written.
-/

import Hotspot.Text.Surrogate
import Hotspot.Utf8

namespace Hotspot
namespace StoredString

/-- The written form of one code point. -/
def encodePoint (c : CodePoint) : Bytes :=
  if c = 0 then [0xC0, 0x80]
  else if c.val < 0x10000 then Utf8.encodePoint c
  else Utf8.encodePoint c.split.1 ++ Utf8.encodePoint c.split.2

/-- The written form of a text. -/
def encode (t : Text) : Bytes :=
  t.flatMap encodePoint

/-- Puts a byte before others, where `C0 80` becomes `00`. -/
def glueNul (b : UInt8) (bytes : Bytes) : Bytes :=
  match b, bytes with
  | 0xC0, 0x80 :: rest => 0x00 :: rest
  | _, _ => b :: bytes

/-- Replaces each `C0 80` by `00`, which leaves the rest of a written form
plain UTF-8 with surrogates. -/
def foldNul (bytes : Bytes) : Bytes :=
  bytes.foldr glueNul []

@[simp] theorem foldNul_nil : foldNul [] = [] := rfl

@[simp] theorem foldNul_cons (b : UInt8) (bytes : Bytes) :
    foldNul (b :: bytes) = glueNul b (foldNul bytes) := rfl

/-- The text of a written form. A fault counts its bytes after the replacement
of `C0 80`. -/
def decode (bytes : Bytes) : Except Utf8.Fault Text :=
  (Utf8.decodePassing (foldNul bytes)).map Text.joinPairs

end StoredString
end Hotspot
