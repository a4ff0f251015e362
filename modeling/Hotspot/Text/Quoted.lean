/-
# Quoted text

A text between quotes, with escapes for the backslash, the quote in use and
whatever is not printable. The quote is `'` unless the text has a `'` and no
`"`.
-/

import Hotspot.Text.Printable

namespace Hotspot
namespace Text

/-- The quote for a text. -/
def quoteFor (t : Text) : CodePoint :=
  if t.contains 0x27 && !t.contains 0x22 then 0x22 else 0x27

/-- One code point between quotes. -/
def quotePoint (quote c : CodePoint) : Text :=
  if c = quote || c = 0x5C then [0x5C, c]
  else if c = 0x09 then "\\t"
  else if c = 0x0A then "\\n"
  else if c = 0x0D then "\\r"
  else if c.isPrintable then [c]
  else if c.val < 0x100 then "\\x" ++ ofHex 2 c.val
  else if c.val < 0x10000 then "\\u" ++ ofHex 4 c.val
  else "\\U" ++ ofHex 8 c.val

/-- A text between quotes. -/
def quoted (t : Text) : Text :=
  let quote := quoteFor t
  quote :: t.flatMap (quotePoint quote) ++ [quote]

end Text
end Hotspot
