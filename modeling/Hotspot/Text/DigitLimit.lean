/-
# The limit on decimal numerals

Numbers are read from and written in decimal only up to 4300 digits, leading
zeros included and the sign left out. Beyond the limit the conversion is
refused, for a text naming how many digits it has, for a number without.
-/

import Hotspot.Text.Basic

namespace Hotspot

/-- The most digits a numeral may have. -/
def digitLimit : Nat := 4300

/-- The refusal of a numeral of `digits` digits. -/
def tooManyDigitsRead (digits : Nat) : Text :=
  "Exceeds the limit (" ++ Text.ofNat digitLimit ++
    " digits) for integer string conversion: value has " ++ Text.ofNat digits ++
    " digits; use sys.set_int_max_str_digits() to increase the limit"

/-- The refusal of a number to be written. -/
def tooManyDigitsWritten : Text :=
  "Exceeds the limit (" ++ Text.ofNat digitLimit ++
    " digits) for integer string conversion; use sys.set_int_max_str_digits() to increase the limit"

/-- A number whose numeral is within the limit. -/
def writable (i : Int) : Bool :=
  i.natAbs < Nat.pow 10 digitLimit

/-- The text of a number, if it is within the limit. -/
def Text.ofInt? (i : Int) : Option Text :=
  if writable i then some (Text.ofInt i) else none

end Hotspot
