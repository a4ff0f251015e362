/-
# Blanks

The code points that separate words, as far as trimming is concerned.
-/

import Hotspot.Text.Basic

namespace Hotspot
namespace CodePoint

/-- A blank: the white space of ASCII with the four separators before the
space, and the spaces and line breaks of Unicode. -/
def isBlank (c : CodePoint) : Bool :=
  let n := c.val
  (0x09 ≤ n && n ≤ 0x0D) || (0x1C ≤ n && n ≤ 0x20) || n = 0x85 || n = 0xA0 || n = 0x1680
    || (0x2000 ≤ n && n ≤ 0x200A) || n = 0x2028 || n = 0x2029 || n = 0x202F || n = 0x205F
    || n = 0x3000

end CodePoint

namespace Text

/-- A text without the blanks at either end. -/
def trim (t : Text) : Text :=
  dropAroundWhile CodePoint.isBlank t

end Text
end Hotspot
