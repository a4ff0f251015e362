/-
# Configuration and concurrency do not interfere

What is looked up in a store is what it took over when it started, whatever is done
with it and whatever becomes of the files; only `setDualActive` changes a flag of it.
In the other direction, no lookup, no `get`, no `validate` and no `setDualActive`
matters to what is set or made up: they can be taken out of a run, and the rest of it
(`Use.acts`) ends as it did.

| use | reads | changes |
| --- | --- | --- |
| a lookup | channels, roles, concurrency | |
| `setDualActive` | | concurrency |
| `get` | configuration | |
| `validate` | | log |
| `set` | path, overlay, files, random inputs | configuration, origin, files, notices, log |
| `localOnly` | overlay, random inputs | random inputs |
-/

import Hotspot.Proofs.Store.Alike
import Hotspot.Proofs.Store.Uses

namespace Hotspot
namespace Store

variable {r t : Running}

/-! ## Lookups over a run -/

/-- A use that matters to what is set or made up. -/
def Use.acts : Use → Bool
  | .ask (.set _) | .ask .localOnly => true
  | .ask .get | .ask (.validate _) | .ask (.setDualActive _) | .lookUp _ => false

/-- An event that matters to what is set or made up. -/
def Event.acts : Event → Bool
  | .used _ use => use.acts
  | .disturbed _ => true

/-- Concurrency and log may differ. -/
def quiet : Kinship where
  config := (· = ·)
  concurrency _ _ := True
  files := (· = ·)
  records _ _ := True
  config_refl _ := rfl
  records_append _ _ _ _ := trivial
  lockstep_store _ _ _ _ h := h ▸ .refl _

/-- Two running stores that differ in concurrency, log and the calls that fail at present. -/
def Running.Agrees (r t : Running) : Prop :=
  (r.withFaults Faults.none).Alike quiet (t.withFaults Faults.none)

namespace Running.Agrees

/-- A store agrees with itself. -/
theorem refl (r : Running) : r.Agrees r :=
  ⟨rfl, rfl, trivial, ⟨rfl, rfl, rfl, rfl, rfl, trivial⟩⟩

/-- Stores that agree are alike with the same calls failing, whichever those are. -/
theorem withFaults (h : r.Agrees t) (faults : Faults) :
    (r.withFaults faults).Alike quiet (t.withFaults faults) :=
  Alike.withFaults h faults

/-- And stores that are alike agree. -/
theorem of_alike (h : r.Alike quiet t) : r.Agrees t :=
  h.withFaults Faults.none

end Running.Agrees

/-- What matters ends alike in stores that agree. -/
theorem lockstep_use {u : Use} (h : u.acts = true) :
    Lockstep (Running.Alike quiet) (· = ·) (use u) (use u) := by
  cases u with
  | lookUp lookup => cases h
  | ask request =>
    cases request with
    | set c =>
      have hsame : Option.Rel quiet.config c c := by
        cases c with
        | none => exact .none
        | some c => exact .some rfl
      exact .bind_eq (.bind_eq (lockstep_set hsame) fun _ => .pure rfl) fun _ => .pure rfl
    | localOnly =>
      exact .bind_eq (.bind_eq lockstep_localOnly fun _ => .pure rfl) fun _ => .pure rfl
    | get => cases h
    | validate c => cases h
    | setDualActive active => cases h

/-- One use that matters: the outcome is the same, and the stores agree afterwards. -/
theorem Running.Agrees.used (h : r.Agrees t) {u : Use} (hacts : u.acts = true) (faults : Faults) :
    (r.withFaults faults).outcome u = (t.withFaults faults).outcome u ∧
      (r.afterEvent (.used faults u)).Agrees (t.afterEvent (.used faults u)) := by
  rw [Running.outcome, Running.outcome, Running.afterEvent, Running.afterEvent, Running.after,
    Running.after]
  rcases (lockstep_use hacts).cases (h.withFaults faults) with
    ⟨a, r', _, t', hr, ht, rfl, hafter⟩ | ⟨e, r', t', hr, ht, hafter⟩
  · rw [hr, ht]
    exact ⟨rfl, .of_alike hafter⟩
  · rw [hr, ht]
    exact ⟨rfl, .of_alike hafter⟩

/-- Others change the files of both alike. -/
theorem Running.Agrees.disturbed (h : r.Agrees t) (change : FileSystem → FileSystem) :
    (r.afterEvent (.disturbed change)).Agrees (t.afterEvent (.disturbed change)) :=
  { h with world := { h.world with files := congrArg change h.world.files } }

end Store
end Hotspot
