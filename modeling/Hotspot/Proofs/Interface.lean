/-
# Roles of candidates

The roles of a list are joined from the roles of its parts: the last part with a serving
interface decides which one serves, and what one part asks for the whole asks for. So the
roles are told by what is in the list, and only for the serving one its place matters.

| role | of `xs` |
| --- | --- |
| serving | the last of `wlan0` and `softap0` in `xs` |
| bridge | `wifi_br0`, if it is in `xs` |
| needs a new one | `softap0` is in `xs`, a later `wlan0` or not |
-/

import Hotspot.Interface
import Mathlib.Data.List.Induction

namespace Hotspot
namespace Roles

variable {xs ys : List Text} {n : Text}

/-! ## Names -/

/-- An interface that can serve the hotspot. -/
def CanServe (n : Text) : Prop := n = wlan0 ∨ n = softap0

instance : DecidablePred CanServe := fun n => inferInstanceAs (Decidable (n = wlan0 ∨ n = softap0))

/-- An interface that has a role. -/
def IsKnown (n : Text) : Prop := CanServe n ∨ n = wifiBridge

instance : DecidablePred IsKnown :=
  fun n => inferInstanceAs (Decidable (CanServe n ∨ n = wifiBridge))

/-- A name is one of the three that tell something, or it tells nothing: the cases of every
proof below. -/
theorem eq_or_not_isKnown (n : Text) :
    n = wlan0 ∨ n = softap0 ∨ n = wifiBridge ∨ ¬IsKnown n := by
  by_cases h : IsKnown n
  · rcases h with (h | h) | h
    · exact .inl h
    · exact .inr (.inl h)
    · exact .inr (.inr (.inl h))
  · exact .inr (.inr (.inr h))

@[simp] theorem add_wlan0 (r : Roles) : r.add wlan0 = { r with serving := some wlan0 } := rfl

@[simp] theorem add_softap0 (r : Roles) :
    r.add softap0 = { r with serving := some softap0, needsNew := true } := rfl

@[simp] theorem add_wifiBridge (r : Roles) :
    r.add wifiBridge = { r with bridge := some wifiBridge } := rfl

/-- A name that is not known changes no role. -/
theorem add_of_not_isKnown (r : Roles) (h : ¬IsKnown n) : r.add n = r := by
  have hstation : n ≠ wlan0 := fun heq => h (.inl (.inl heq))
  have hown : n ≠ softap0 := fun heq => h (.inl (.inr heq))
  have hbridge : n ≠ wifiBridge := fun heq => h (.inr heq)
  rw [add, if_neg hstation, if_neg hown, if_neg hbridge]

/-! ## Joining -/

/-- The roles of some candidates and of more behind them. -/
def join (r s : Roles) : Roles where
  serving := s.serving.or r.serving
  bridge := s.bridge.or r.bridge
  needsNew := r.needsNew || s.needsNew

/-- The roles of candidates, told by what is in the list. -/
def told (xs : List Text) : Roles where
  serving := (xs.filter CanServe).getLast?
  bridge := if wifiBridge ∈ xs then some wifiBridge else none
  needsNew := decide (softap0 ∈ xs)

/-- There is a bridge just if its name is among those that were told. -/
theorem bridge_told (xs : List Text) : ((told xs).bridge = some wifiBridge ↔ wifiBridge ∈ xs) ∧
    ((told xs).bridge = none ↔ wifiBridge ∉ xs) := by
  by_cases h : wifiBridge ∈ xs
  · have hbridge : (told xs).bridge = some wifiBridge := if_pos h
    simp [hbridge, h]
  · have hbridge : (told xs).bridge = none := if_neg h
    simp [hbridge, h]

/-- What two lists tell one after the other is what they tell, joined. -/
theorem told_append (xs ys : List Text) : told (xs ++ ys) = (told xs).join (told ys) := by
  have hbridge : (if wifiBridge ∈ xs ++ ys then some wifiBridge else none) =
      (if wifiBridge ∈ ys then some wifiBridge else none).or
        (if wifiBridge ∈ xs then some wifiBridge else none) := by
    by_cases hy : wifiBridge ∈ ys <;> simp [hy]
  rw [told, hbridge, List.filter_append, List.getLast?_append]
  simp only [told, join, List.mem_append, Bool.decide_or]

/-- A name that is not known tells nothing. -/
theorem told_singleton (h : ¬IsKnown n) : told [n] = {} := by
  have hserve : ¬CanServe n := fun hserve => h (.inl hserve)
  have hbridge : wifiBridge ≠ n := fun heq => h (.inr heq.symm)
  have hown : softap0 ≠ n := fun heq => hserve (.inr heq.symm)
  simp [told, hserve, hbridge, hown]

/-- One more candidate adds to what is told what it adds to the roles. -/
theorem told_concat (xs : List Text) (n : Text) : told (xs ++ [n]) = (told xs).add n := by
  rw [told_append]
  rcases eq_or_not_isKnown n with rfl | rfl | rfl | h
  · have hone : told [wlan0] = { serving := some wlan0 } := by decide
    rw [hone, add_wlan0]
    simp [join]
  · have hone : told [softap0] = { serving := some softap0, needsNew := true } := by decide
    rw [hone, add_softap0]
    simp [join]
  · have hone : told [wifiBridge] = { bridge := some wifiBridge } := by decide
    rw [hone, add_wifiBridge]
    simp [join]
  · rw [told_singleton h, add_of_not_isKnown _ h]
    simp [join]

/-- The roles are told by what is in the list. -/
theorem ofCandidates_eq_told (xs : List Text) : ofCandidates xs = told xs := by
  induction xs using List.reverseRecOn with
  | nil => rfl
  | append_singleton xs n ih =>
    rw [told_concat, ← ih, ofCandidates, List.foldl_append]
    rfl

/-- Lists with the same serving interfaces, and a bridge in both or in neither, have the same
roles. -/
theorem ofCandidates_congr (hserve : xs.filter CanServe = ys.filter CanServe)
    (hbridge : wifiBridge ∈ xs ↔ wifiBridge ∈ ys) : ofCandidates xs = ofCandidates ys := by
  have hmem (zs : List Text) : softap0 ∈ zs ↔ softap0 ∈ zs.filter CanServe := by
    simp [List.mem_filter, CanServe]
  have hown : softap0 ∈ xs ↔ softap0 ∈ ys := by rw [hmem, hserve, ← hmem]
  rw [ofCandidates_eq_told, ofCandidates_eq_told, told, told, hserve]
  simp only [hbridge, hown]

/-- Names that have no role may be left out. -/
theorem ofCandidates_of_filter (h : xs.filter IsKnown = ys.filter IsKnown) :
    ofCandidates xs = ofCandidates ys := by
  have hserve (zs : List Text) : zs.filter CanServe = (zs.filter IsKnown).filter CanServe := by
    rw [List.filter_filter]
    refine List.filter_congr fun n _ => ?_
    by_cases hn : CanServe n <;> simp [hn, IsKnown]
  have hbridge (zs : List Text) : wifiBridge ∈ zs ↔ wifiBridge ∈ zs.filter IsKnown := by
    simp [List.mem_filter, IsKnown]
  refine ofCandidates_congr ?_ ?_
  · rw [hserve, h, ← hserve]
  · rw [hbridge, h, ← hbridge]

/-- The bridge may stand anywhere. -/
theorem ofCandidates_move (before middle after : List Text) :
    ofCandidates (before ++ wifiBridge :: middle ++ after) =
      ofCandidates (before ++ middle ++ wifiBridge :: after) := by
  have hserve : ¬CanServe wifiBridge := by decide
  refine ofCandidates_congr ?_ ?_
  · simp [hserve]
  · simp

/-! ## The law of roles -/

/-- **The last interface that can serve does, and the other roles stick.** `softap0` has to be
created wherever it is in the list, and the bridge is there if it is in the list. So names that
have no role may be left out or put in, and the bridge may be moved. Of two lists one behind
the other, the later one decides which interface serves, if it has one that can. -/
theorem last_match_serves :
    (∀ xs : List Text, (ofCandidates xs).serving = (xs.filter CanServe).getLast? ∧
      ((ofCandidates xs).bridge = some wifiBridge ↔ wifiBridge ∈ xs) ∧
      ((ofCandidates xs).bridge = none ↔ wifiBridge ∉ xs) ∧
      ((ofCandidates xs).needsNew = true ↔ softap0 ∈ xs)) ∧
    (∀ xs ys : List Text, xs.filter IsKnown = ys.filter IsKnown →
      ofCandidates xs = ofCandidates ys) ∧
    (∀ before middle after : List Text,
      ofCandidates (before ++ wifiBridge :: middle ++ after) =
        ofCandidates (before ++ middle ++ wifiBridge :: after)) ∧
    ∀ xs ys : List Text,
      (ofCandidates (xs ++ ys)).serving = (ofCandidates ys).serving.or (ofCandidates xs).serving ∧
      (ofCandidates (xs ++ ys)).bridge = (ofCandidates ys).bridge.or (ofCandidates xs).bridge ∧
      (ofCandidates (xs ++ ys)).needsNew =
        ((ofCandidates xs).needsNew || (ofCandidates ys).needsNew) := by
  refine ⟨fun xs => ?_, fun _ _ => ofCandidates_of_filter, ofCandidates_move, fun xs ys => ?_⟩
  · rw [ofCandidates_eq_told]
    exact ⟨rfl, (bridge_told xs).1, (bridge_told xs).2, decide_eq_true_iff⟩
  · simp only [ofCandidates_eq_told, told_append]
    exact ⟨rfl, rfl, rfl⟩

/-- `softap0` has to be created, although a later `wlan0` serves; names in other letters or with
a blank are strangers. -/
theorem last_match_serves_among_strangers :
    let xs : List Text := ["softap0", "eth0", "wifi_br0", "wlan0", "WLAN0", "softap0 "]
    let ys : List Text := ["softap0", "wifi_br0", "p2p0", "wlan0"]
    xs.filter IsKnown = ys.filter IsKnown ∧ ofCandidates xs = ofCandidates ys ∧
      ofCandidates ys = { serving := some wlan0, bridge := some wifiBridge, needsNew := true } := by
  intro xs ys
  have hknown : xs.filter IsKnown = ys.filter IsKnown := by decide
  obtain ⟨-, hsame, -, -⟩ := last_match_serves
  exact ⟨hknown, hsame xs ys hknown, by decide⟩

end Roles
end Hotspot
