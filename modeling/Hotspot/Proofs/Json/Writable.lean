/-
# What is read can be shown

Integers are read up to the limit on numerals, and up to the same limit they are shown and
written. So whatever is read of a text can be shown: the limit stands in the way of values
that are made up alone.

| value | can be shown |
| --- | --- |
| an integer | up to 4300 digits |
| an array, an object | if all in it can |
| any other | always |
-/

import Hotspot.Json.Reader
import Hotspot.Json.Writer
import Hotspot.Proofs.Outcome
import Hotspot.Proofs.Text.Numerals
import Mathlib.Data.List.TakeDrop
import Mathlib.Data.List.TakeWhile

namespace Hotspot
namespace Json

variable {j : Json} {items done : List Json} {ms : Members} {fuel room : Nat} {c c' : Cursor}

/-! ## Values that can be shown -/

/-- Items can be shown just if each of them can. -/
theorem areWritable_iff : areWritable items = true ↔ ∀ item ∈ items, item.isWritable = true := by
  induction items with
  | nil => simp [areWritable]
  | cons item items ih => rw [areWritable, Bool.and_eq_true, ih, List.forall_mem_cons]

/-- Members can be shown just if the value of each can. -/
theorem membersAreWritable_iff :
    membersAreWritable ms = true ↔ ∀ m ∈ ms, m.2.isWritable = true := by
  induction ms with
  | nil => simp [membersAreWritable]
  | cons m ms ih => rw [membersAreWritable, Bool.and_eq_true, ih, List.forall_mem_cons]

mutual

/-- A value whose integers are within the limit can be shown. -/
theorem exists_quoted? : (j : Json) → j.isWritable = true → ∃ t, j.quoted? = some t
  | .null | .bool true | .bool false | .double _ | .text _ => fun _ => ⟨_, rfl⟩
  | .int i => fun h => by
    rw [isWritable] at h
    exact ⟨Text.ofInt i, by rw [quoted?, Text.ofInt?_of_writable h]⟩
  | .array items => fun h => by
    obtain ⟨ts, hts⟩ := exists_quotedItems? items h
    exact ⟨_, by rw [quoted?, hts]; rfl⟩
  | .object members => fun h => by
    obtain ⟨ts, hts⟩ := exists_quotedMembers? members h
    exact ⟨_, by rw [quoted?, hts]; rfl⟩

/-- And the items of an array, by the same recursion. -/
theorem exists_quotedItems? :
    (items : List Json) → areWritable items = true → ∃ ts, quotedItems? items = some ts
  | [], _ => ⟨[], rfl⟩
  | item :: items, h => by
    rw [areWritable, Bool.and_eq_true] at h
    obtain ⟨t, ht⟩ := exists_quoted? item h.1
    obtain ⟨ts, hts⟩ := exists_quotedItems? items h.2
    exact ⟨t :: ts, by rw [quotedItems?, ht, hts]; rfl⟩

/-- And the members of an object. -/
theorem exists_quotedMembers? :
    (ms : List (Text × Json)) → membersAreWritable ms = true → ∃ ts, quotedMembers? ms = some ts
  | [], _ => ⟨[], rfl⟩
  | (name, value) :: ms, h => by
    rw [membersAreWritable, Bool.and_eq_true] at h
    obtain ⟨t, ht⟩ := exists_quoted? value h.1
    obtain ⟨ts, hts⟩ := exists_quotedMembers? ms h.2
    exact ⟨(name.quoted ++ ": " ++ t) :: ts, by rw [quotedMembers?, ht, hts]; rfl⟩

end

/-- So a value that can be shown has a text, quoted or not. -/
theorem exists_shown? (h : j.isWritable = true) : ∃ t, j.shown? = some t := by
  rw [shown?.eq_def]
  split
  · exact ⟨_, rfl⟩
  · exact exists_quoted? j h

/-! ## Reading -/

/-- The integer part of a number is digits. -/
theorem isDigits_integerPart? {t i rest : Text} (h : integerPart? t = some (i, rest)) :
    Text.IsDigits i (number i) := by
  rw [integerPart?.eq_def] at h
  split at h
  · cases h
    exact Text.isDigits_iff.2 ⟨by decide, rfl⟩
  · split at h
    · cases h
    · next t _ digits after hne hdigits =>
      cases h
      rw [digits.eq_def, List.span_eq_takeWhile_dropWhile] at hdigits
      obtain ⟨rfl, -⟩ := Prod.mk.inj hdigits
      refine Text.isDigits_iff.2 ⟨?_, rfl⟩
      rw [Bool.or_eq_false_iff, List.isEmpty_eq_false_iff, Bool.not_eq_false', List.all_eq_true]
      exact ⟨hne, fun c hc => List.mem_takeWhile_imp hc⟩

/-- A number of so few digits can be shown, with either sign. -/
theorem writable_signed {digits : Text} {n : Nat} (h : Text.IsDigits digits n)
    (hlimit : digits.length ≤ 4300) (negative : Bool) :
    writable (Text.signed negative n) = true := by
  have hn : n < 10 ^ 4300 := h.lt hlimit
  refine Text.writable_iff.2 ?_
  rw [Text.signed]
  split
  · rwa [Int.natAbs_neg, Int.natAbs_natCast]
  · rwa [Int.natAbs_natCast]

/-- An integer is read if it has at most as many digits as may be shown. -/
theorem isWritable_of_readNumber (h : readNumber c = .ok (j, c')) : j.isWritable = true := by
  rw [readNumber] at h
  split at h
  next negative t hsign =>
  split at h
  · cases h
  · next i rest hdigits =>
    dsimp only at h
    split at h
    · cases h
      rfl
    · split at h
      · cases h
        rfl
      · split at h
        · cases h
        · next hlimit =>
          cases h
          rw [isWritable]
          exact writable_signed (isDigits_integerPart? hdigits) (Nat.le_of_not_lt hlimit) negative

/-- What is read of a word or a number can be shown, since the digits were counted. -/
theorem isWritable_of_readAtom (h : readAtom c = .ok (j, c')) : j.isWritable = true := by
  rw [readAtom] at h
  split at h
  · next result hresult =>
    cases h
    obtain ⟨⟨word, value⟩, hword, hvalue⟩ := List.exists_of_findSome?_eq_some hresult
    obtain ⟨c₁, -, heq⟩ := Option.map_eq_some_iff.1 hvalue
    cases heq
    have hall : ∀ word ∈ words, word.2.isWritable = true := by decide
    exact hall _ hword
  · exact isWritable_of_readNumber h

/-- Setting a member to what can be shown leaves members that can. -/
theorem Members.isWritable_set {name : Text} (hj : j.isWritable = true)
    (h : ∀ m ∈ ms, m.2.isWritable = true) :
    ∀ m ∈ Members.set name j ms, m.2.isWritable = true := by
  induction ms with
  | nil => exact List.forall_mem_singleton.2 hj
  | cons m ms ih =>
    rw [List.forall_mem_cons] at h
    rw [Members.set]
    split
    · exact List.forall_mem_cons.2 ⟨hj, h.2⟩
    · exact List.forall_mem_cons.2 ⟨h.1, ih h.2⟩

/-- What is read with some fuel can be shown: values, items onto items, and members onto
members. -/
structure ReadsWritable (fuel : Nat) : Prop where
  value : ∀ {room c j c'}, readValue fuel room c = .ok (j, c') → j.isWritable = true
  items : ∀ {room done c items c'}, (∀ item ∈ done, item.isWritable = true) →
    readItems fuel room done c = .ok (items, c') → ∀ item ∈ items, item.isWritable = true
  members : ∀ {room done c ms c'}, (∀ m ∈ done, m.2.isWritable = true) →
    readMembers fuel room done c = .ok (ms, c') → ∀ m ∈ ms, m.2.isWritable = true

namespace ReadsWritable

variable (ih : ReadsWritable fuel)
include ih

/-- An array or an object is read with less fuel, and any other value holds no values. -/
theorem value_succ (h : readValue (fuel + 1) room c = .ok (j, c')) : j.isWritable = true := by
  rw [readValue.eq_def] at h
  dsimp only at h
  split at h
  · obtain ⟨⟨t, c₁⟩, -, h⟩ := bind_eq_ok.1 h
    cases h
    rfl
  · cases h
  · split at h
    · cases h
      rfl
    · obtain ⟨⟨ms, c₁⟩, hms, h⟩ := bind_eq_ok.1 h
      cases h
      exact membersAreWritable_iff.2 (ih.members (List.forall_mem_nil _) hms)
  · cases h
  · split at h
    · cases h
      rfl
    · obtain ⟨⟨items, c₁⟩, hitems, h⟩ := bind_eq_ok.1 h
      cases h
      exact areWritable_iff.2 (ih.items (List.forall_mem_nil _) hitems)
  · exact isWritable_of_readAtom h

/-- One more item is read onto those that can be shown, and then the others. -/
theorem items_succ (hdone : ∀ item ∈ done, item.isWritable = true)
    (h : readItems (fuel + 1) room done c = .ok (items, c')) :
    ∀ item ∈ items, item.isWritable = true := by
  rw [readItems] at h
  obtain ⟨⟨item, c₁⟩, hitem, h⟩ := bind_eq_ok.1 h
  have hmore : ∀ other ∈ item :: done, other.isWritable = true :=
    List.forall_mem_cons.2 ⟨ih.value hitem, hdone⟩
  dsimp only at h
  split at h
  · cases h
    exact fun item hmem => hmore item (List.mem_reverse.1 hmem)
  · exact ih.items hmore h
  · cases h

/-- One more member is set in those that can be shown, and then the others. -/
theorem members_succ {msDone : Members} (hdone : ∀ m ∈ msDone, m.2.isWritable = true)
    (h : readMembers (fuel + 1) room msDone c = .ok (ms, c')) :
    ∀ m ∈ ms, m.2.isWritable = true := by
  rw [readMembers] at h
  split at h
  · obtain ⟨⟨name, c₁⟩, -, h⟩ := bind_eq_ok.1 h
    dsimp only at h
    split at h
    · obtain ⟨⟨value, c₂⟩, hvalue, h⟩ := bind_eq_ok.1 h
      have hmore : ∀ m ∈ Members.set name value msDone, m.2.isWritable = true :=
        Members.isWritable_set (ih.value hvalue) hdone
      dsimp only at h
      split at h
      · cases h
        exact hmore
      · exact ih.members hmore h
      · cases h
    · cases h
  · cases h

end ReadsWritable

/-- The values in a value are read with one step of the fuel less. -/
theorem readsWritable (fuel : Nat) : ReadsWritable fuel := by
  induction fuel with
  | zero =>
    refine ⟨fun h => ?_, fun _ h => ?_, fun _ h => ?_⟩
    · rw [readValue] at h
      cases h
    · rw [readItems] at h
      cases h
    · rw [readMembers] at h
      cases h
  | succ fuel ih => exact ⟨ih.value_succ, ih.items_succ, ih.members_succ⟩

/-- **What is read of a text can be shown.** -/
theorem isWritable_of_readWithin {depth : Nat} {t : Text} (h : readWithin depth t = .ok j) :
    j.isWritable = true := by
  rw [readWithin.eq_def] at h
  split at h
  · cases h
  · obtain ⟨⟨value, c⟩, hvalue, h⟩ := bind_eq_ok.1 h
    dsimp only at h
    split at h
    · cases h
      exact (readsWritable _).value hvalue
    · cases h

end Json
end Hotspot
