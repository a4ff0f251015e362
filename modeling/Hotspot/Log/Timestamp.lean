/-
# Timestamps

A time is a number of seconds, counted from the start of 1970; its timestamp is
the second it falls into, as a date and a time of day in UTC. Days are counted
in eras of 400 years from the first of March of year 0, so that the leap day is
the last day of a year.

A time is out of reach if it does not fit the clock, which counts seconds in 64
bits, or if its year does not fit 32 bits, counted from 1900 or from 0.
-/

import Hotspot.Log.Value

namespace Hotspot
namespace Log

/-- A date of the Gregorian calendar, extended to all years. -/
structure Date where
  year : Int
  month : Nat
  day : Nat
  deriving DecidableEq, Repr

/-- The days of an era. -/
def daysPerEra : Nat := 146097

/-- The days from the first of March of year 0 to the start of 1970. -/
def daysToEpoch : Int := 719468

/-- The date of a day counted from the start of 1970. -/
def Date.ofDay (day : Int) : Date :=
  let n := day + daysToEpoch
  let era := n / daysPerEra
  let dayOfEra := (n % daysPerEra).toNat
  let yearOfEra :=
    (dayOfEra - dayOfEra / 1460 + dayOfEra / 36524 - dayOfEra / 146096) / 365
  let dayOfYear := dayOfEra - (365 * yearOfEra + yearOfEra / 4 - yearOfEra / 100)
  let shifted := (5 * dayOfYear + 2) / 153
  let month := if shifted < 10 then shifted + 3 else shifted - 9
  { year := yearOfEra + era * 400 + (if month ≤ 2 then 1 else 0)
    month := month
    day := dayOfYear - (153 * shifted + 2) / 5 + 1 }

/-- A number of two digits. -/
def twoDigits (n : Nat) : Text :=
  if n < 10 then 0x30 :: Text.ofNat n else Text.ofNat n

/-- The text of a second, as `1970-01-01T00:00:00Z`. -/
def timestamp (second : Int) : Text :=
  let date := Date.ofDay (second / 86400)
  let time := (second % 86400).toNat
  Text.ofInt date.year ++ "-" ++ twoDigits date.month ++ "-" ++ twoDigits date.day ++ "T" ++
    twoDigits (time / 3600) ++ ":" ++ twoDigits (time / 60 % 60) ++ ":" ++
    twoDigits (time % 60) ++ "Z"

/-- Why a value has no timestamp. -/
inductive TimeError
  /-- It is no number but of another kind. -/
  | notANumber (kind : Text)
  /-- It is a double, but no number. -/
  | undefined
  /-- It does not fit the clock. -/
  | beyondClock
  /-- Its year does not fit when it is counted from 1900. -/
  | beyondCalendar
  /-- Its year does not fit. -/
  | beyondYears
  deriving DecidableEq, Repr

/-- The wording of an error. -/
def TimeError.message : TimeError → Text
  | .notANumber kind => "'" ++ kind ++ "' object cannot be interpreted as an integer"
  | .undefined => "Invalid value NaN (not a number)"
  | .beyondClock => "timestamp out of range for platform time_t"
  | .beyondCalendar => "[Errno 75] Value too large for defined data type"
  | .beyondYears => "signed integer is greater than maximum"

/-- What the clock reaches, back and forth. -/
def clockLimit : Int := 0x8000000000000000

/-- What a year reaches, back and forth. -/
def yearLimit : Int := 0x80000000

/-- The year that the calendar counts from. -/
def calendarStart : Int := 1900

/-- A second that the clock can show. -/
def onClock (second : Int) : Except TimeError Int :=
  if -clockLimit ≤ second ∧ second < clockLimit then .ok second else .error .beyondClock

/-- A second of a double that the clock can show. As a double, the last second of
the clock is rounded up to its reach, which passes therefore. -/
def onClockRounded (second : Int) : Except TimeError Int :=
  if -clockLimit ≤ second ∧ second ≤ clockLimit then .ok second else .error .beyondClock

/-- The second that a time falls into. -/
def secondOf : Value → Except TimeError Int
  | .json (.int i) => onClock i
  | .json (.bool b) => .ok (if b then 1 else 0)
  | .json (.double .nan) => .error .undefined
  | .json (.double d) => d.floor?.elim (.error .beyondClock) onClockRounded
  | v => .error (.notANumber v.kindName)

/-- The timestamp of a time. -/
def timestamp? (time : Value) : Except TimeError Text := do
  let second ← secondOf time
  let year := (Date.ofDay (second / 86400)).year
  let fromStart := year - calendarStart
  if fromStart < -yearLimit ∨ yearLimit ≤ fromStart then .error .beyondCalendar
  else if yearLimit ≤ year then .error .beyondYears
  else .ok (timestamp second)

end Log
end Hotspot
