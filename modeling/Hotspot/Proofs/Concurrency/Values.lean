/-
# Values of a template

What a line has to say is told by its text alone. It has a value if it starts with a key:
what is behind the key, without line ends. The directive of a line follows from there:

| line | directive |
| --- | --- |
| has no value | nothing |
| has a value that is no numeral | a bad value |
| has a numeral of over `digitLimit` digits | the end of the reading |
| has a numeral of another integer than of 32 bits | a bad value |
| has a numeral of an integer of 32 bits (`Sets`) | a setting |

No key starts with another one, so a line has one value at most. Whether a numeral has too
many digits is asked before its integer is looked at: zeros in front count.
-/

import Hotspot.Proofs.Concurrency.Directives
import Hotspot.Proofs.Text.Numerals

namespace Hotspot
namespace Concurrency

open Text (IsNumeral isLineEnd)

variable {c : Concurrency} {k k' : Key} {line value digits : Text} {lines : List Text} {i : Int}
  {n : Nat}

/-- A line has a key and a value, the text behind the key without line ends. -/
def HasValue (k : Key) (line value : Text) : Prop :=
  ∃ rest, line = k.start ++ rest ∧ value = rest.filter fun x => !isLineEnd x

/-- A line sets a key to an integer: its value is a numeral of one of 32 bits. -/
def Sets (k : Key) (line : Text) (i : Int) : Prop :=
  ∃ value digits, HasValue k line value ∧ IsNumeral value digits i ∧
    -0x80000000 ≤ i ∧ i ≤ 0x7FFFFFFF

/-- The value of a line is a numeral of too many digits. -/
def IsOverlong (line : Text) (n : Nat) : Prop :=
  ∃ k value digits i, HasValue k line value ∧ IsNumeral value digits i ∧ digits.length = n ∧
    4300 < n

/-! ## Keys -/

/-- A line has one key at most. -/
theorem key_unique (h : k.start <+: line) (h' : k'.start <+: line) : k = k' := by
  -- one of two keys would start the other one
  rcases List.prefix_or_prefix_of_prefix h h' with hstart | hstart
  · revert hstart
    cases k <;> cases k' <;> decide
  · revert hstart
    cases k <;> cases k' <;> decide

/-- A line is one of a key just if it starts with it: no key starts another one. -/
theorem ofLine?_eq_some : Key.ofLine? line = some k ↔ k.start <+: line := by
  rw [← List.isPrefixOf_iff_prefix]
  constructor
  · exact List.find?_some (p := fun k : Key => k.start.isPrefixOf line)
  · intro h
    cases hkey : Key.ofLine? line with
    | none =>
      have hall := List.find?_eq_none.1 hkey k (by cases k <;> decide)
      exact absurd h hall
    | some k' =>
      have h' := List.find?_some (p := fun k : Key => k.start.isPrefixOf line) hkey
      rw [key_unique (List.isPrefixOf_iff_prefix.1 h) (List.isPrefixOf_iff_prefix.1 h')]

/-- So the value of a line is determined. -/
theorem hasValue_iff :
    HasValue k line value ↔ Key.ofLine? line = some k ∧ k.value line = value := by
  rw [ofLine?_eq_some]
  constructor
  · rintro ⟨rest, rfl, rfl⟩
    refine ⟨List.prefix_append _ _, ?_⟩
    rw [Key.value, List.drop_left]
  · rintro ⟨⟨rest, rfl⟩, rfl⟩
    refine ⟨rest, rfl, ?_⟩
    rw [Key.value, List.drop_left]

/-! ## Directives -/

/-- What a line says, by what there is of a value in it. -/
inductive Says (line : Text) : Directive → Prop
  | nothing (h : ∀ k value, ¬HasValue k line value) : Says line .none
  | noNumeral {k : Key} {value : Text} (hvalue : HasValue k line value)
    (h : ∀ digits i, ¬IsNumeral value digits i) : Says line (.bad k)
  | tooLong {n : Nat} (h : IsOverlong line n) : Says line (.tooLong n)
  | outOfRange {k : Key} {value digits : Text} {i : Int} (hvalue : HasValue k line value)
    (hnumeral : IsNumeral value digits i) (h : ¬Config.FitsInt32 i) : Says line (.bad k)
  | setting {k : Key} {i : Int} (h : Sets k line i) : Says line (.set k i)

/-- A line without a value says nothing. -/
theorem ofLine_of_not_hasValue (h : ∀ k value, ¬HasValue k line value) :
    Directive.ofLine line = .none := by
  have hkey : Key.ofLine? line = none := by
    rw [Option.eq_none_iff_forall_ne_some]
    exact fun k hk => h k _ (hasValue_iff.2 ⟨hk, rfl⟩)
  rw [Directive.ofLine, hkey]

/-- One whose value is no numeral is a bad one. -/
theorem ofLine_of_not_isNumeral (hvalue : HasValue k line value)
    (h : ∀ digits i, ¬IsNumeral value digits i) : Directive.ofLine line = .bad k := by
  obtain ⟨hkey, rfl⟩ := hasValue_iff.1 hvalue
  rw [Directive.ofLine, hkey]
  dsimp only
  rw [Text.numeral_of_not_isNumeral h]

/-- One with too many digits ends the reading. -/
theorem ofLine_of_isOverlong (h : IsOverlong line n) : Directive.ofLine line = .tooLong n := by
  obtain ⟨k, value, digits, i, hvalue, hnumeral, rfl, hlong⟩ := h
  obtain ⟨hkey, rfl⟩ := hasValue_iff.1 hvalue
  have hended : digitLimit < digits.length := hlong
  rw [Directive.ofLine, hkey]
  dsimp only
  rw [Text.numeral_of_isNumeral hnumeral, if_pos hended]

/-- A numeral sets its number if that has 32 bits, and is bad otherwise. -/
theorem ofLine_of_isNumeral (hvalue : HasValue k line value) (h : IsNumeral value digits i)
    (hmax : digits.length ≤ 4300) :
    Directive.ofLine line = if Config.FitsInt32 i then .set k i else .bad k := by
  obtain ⟨hkey, rfl⟩ := hasValue_iff.1 hvalue
  have hread : ¬digitLimit < digits.length := Nat.not_lt.2 hmax
  rw [Directive.ofLine, hkey]
  dsimp only
  rw [Text.numeral_of_isNumeral h, if_neg hread]

/-- **What a line says** is told by its value. -/
theorem says_ofLine (line : Text) : Says line (Directive.ofLine line) := by
  by_cases hvalue : ∃ k value, HasValue k line value
  · obtain ⟨k, value, hvalue⟩ := hvalue
    by_cases hnumeral : ∃ digits i, IsNumeral value digits i
    · obtain ⟨digits, i, hnumeral⟩ := hnumeral
      by_cases hlong : 4300 < digits.length
      · have h : IsOverlong line digits.length :=
          ⟨k, value, digits, i, hvalue, hnumeral, rfl, hlong⟩
        rw [ofLine_of_isOverlong h]
        exact .tooLong h
      · rw [ofLine_of_isNumeral hvalue hnumeral (Nat.not_lt.1 hlong)]
        split
        · next hfits => exact .setting ⟨value, digits, hvalue, hnumeral, hfits⟩
        · next hfits => exact .outOfRange hvalue hnumeral hfits
    · have hnone : ∀ digits i, ¬IsNumeral value digits i :=
        fun digits i h => hnumeral ⟨digits, i, h⟩
      rw [ofLine_of_not_isNumeral hvalue hnone]
      exact .noNumeral hvalue hnone
  · have hnone : ∀ k value, ¬HasValue k line value := fun k value h => hvalue ⟨k, value, h⟩
    rw [ofLine_of_not_hasValue hnone]
    exact .nothing hnone

/-- What a line sets was a numeral of 32 bits. -/
theorem sets_of_ofLine (h : Directive.ofLine line = .set k i) : Sets k line i := by
  have hsays := says_ofLine line
  rw [h] at hsays
  cases hsays with
  | setting h => exact h

/-- A line that ends the reading has too many digits. -/
theorem isOverlong_of_ofLine (h : Directive.ofLine line = .tooLong n) : IsOverlong line n := by
  have hsays := says_ofLine line
  rw [h] at hsays
  cases hsays with
  | tooLong h => exact h

/-- A line that sets a key is obeyed, unless its numeral has too many digits. -/
theorem ofLine_of_sets (h : Sets k line i) (hlong : ∀ n, ¬IsOverlong line n) :
    Directive.ofLine line = .set k i := by
  obtain ⟨value, digits, hvalue, hnumeral, hfits⟩ := h
  have hmax : digits.length ≤ 4300 :=
    Nat.not_lt.1 fun hmin => hlong _ ⟨k, value, digits, i, hvalue, hnumeral, rfl, hmin⟩
  rw [ofLine_of_isNumeral hvalue hnumeral hmax]
  exact if_pos hfits

/-- So a line ends the reading just if its value has too many digits. -/
theorem endsReading_iff : endsReading line = true ↔ ∃ n, IsOverlong line n := by
  rw [endsReading]
  constructor
  · intro h
    split at h
    · next n hline => exact ⟨n, isOverlong_of_ofLine hline⟩
    · cases h
  · rintro ⟨n, h⟩
    rw [ofLine_of_isOverlong h]

/-- Lines are read to their end exactly if no numeral in them has too many digits. -/
theorem exists_readLines_iff :
    (∃ c', c.readLines lines = .ok c') ↔ ∀ line ∈ lines, ∀ n, ¬IsOverlong line n := by
  rw [exists_readLines]
  refine forall₂_congr fun line _ => ?_
  rw [← Bool.not_eq_true, endsReading_iff, not_exists]

end Concurrency
end Hotspot
