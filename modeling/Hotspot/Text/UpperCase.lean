/-
# Upper case that is ASCII

Names looked up in upper case are ASCII, so of the full case mapping of Unicode
only the part whose results are ASCII matters. Beside the letters `a … z` these
are the dotless `ı`, the long `ſ`, the sharp `ß` and the Latin ligatures.
-/

import Hotspot.Text.Basic

namespace Hotspot
namespace CodePoint

/-- The upper case of a code point, if it is ASCII. -/
def upperAscii? (c : CodePoint) : Option Text :=
  let n := c.val
  if 0x61 ≤ n && n ≤ 0x7A then some [ofNat (n - 0x20)]
  else if n < 0x80 then some [c]
  else if n = 0xDF then some "SS"
  else if n = 0x131 then some "I"
  else if n = 0x17F then some "S"
  else if n = 0xFB00 then some "FF"
  else if n = 0xFB01 then some "FI"
  else if n = 0xFB02 then some "FL"
  else if n = 0xFB03 then some "FFI"
  else if n = 0xFB04 then some "FFL"
  else if n = 0xFB05 || n = 0xFB06 then some "ST"
  else none

end CodePoint

namespace Text

/-- The upper case of a text, if it is ASCII throughout. -/
def upperAscii? (t : Text) : Option Text :=
  (t.mapM CodePoint.upperAscii?).map List.flatten

end Text
end Hotspot
