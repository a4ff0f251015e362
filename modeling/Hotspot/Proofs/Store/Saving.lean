/-
# What saving comes to

Saving a configuration is storing it, and telling what came of that:

| storing | saving |
| --- | --- |
| is done | tells that it is written |
| fails for the encoding, or by a call | tells that it is not, and logs the reason |
| fails otherwise | fails in the same way |

Nothing but the files and the log is touched (`Saved`). A setting saves, and makes its
configuration the active one in any case; where it comes from is told anew only if the
saving has not failed.
-/

import Hotspot.Proofs.Config.Completing
import Hotspot.Proofs.Store.Writing

namespace Hotspot
namespace Store

variable {p : Path} {c : Config} {w w' : World} {written : Bool} {r : Running}

/-- There is a report of a configuration without bytes and of a failed call alone. -/
theorem refusal_or_io_of_report {e : Config.WriteError} {text : Text} (h : report e = .ok text) :
    (∃ refusal, e = .encode refusal) ∨ ∃ io, e = .io io := by
  cases e with
  | encode refusal => exact .inl ⟨refusal, rfl⟩
  | io io => exact .inr ⟨io, rfl⟩
  | unnamed path => cases h
  | name fault => cases h
  | tooDeep => cases h

/-- What saving tells, and what it leaves. -/
inductive Saved (p : Path) (c : Config) (w : World) : Bool → World → Prop
  | written {files : FileSystem} {records : List Log.Record} :
    Config.Completes w.faults p c w.files files → Saved p c w true { w with files, records }
  | refused {e : Config.WriteError} {files : FileSystem} {records : List Log.Record} {text : Text} :
    Config.store w.faults p c w.files = .error e files → report e = .ok text →
    Saved p c w false { w with files, records }

/-- How saving fails. -/
def Unsaved (p : Path) (c : Config) (w : World) (e : Failure) : Prop :=
  ∃ refusal files, Config.store w.faults p c w.files = .error refusal files ∧
    report refusal = .error e

namespace Saved

/-- A saving says that it was written just if every step was done. -/
theorem eq_true_iff (h : Saved p c w written w') :
    written = true ↔ Config.Completes w.faults p c w.files w'.files := by
  cases h with
  | written hcompletes => exact iff_of_true rfl hcompletes
  | refused hstore _ =>
    refine iff_of_false Bool.false_ne_true fun hcompletes => ?_
    cases hstore.symm.trans (Config.store_eq_ok_iff.2 hcompletes)

/-- Saving changes nothing but files and log. -/
theorem frame (h : Saved p c w written w') :
    ∃ files records, w' = { w with files, records } := by
  cases h with
  | written _ => exact ⟨_, _, rfl⟩
  | refused _ _ => exact ⟨_, _, rfl⟩

end Saved

/-- Saving a configuration says whether it was written, or fails for one of the reasons
listed. -/
theorem ends_save_saved (w : World) (p : Path) (op : Operation) (c : Config) :
    Ends (save p op c) w (Saved p c w) fun e _ => Unsaved p c w e := by
  cases hstore : Config.store w.faults p c w.files with
  | ok _ files =>
    have hwrite : World.write p c w = .ok none { w with files } := by rw [World.write, hstore]
    refine .bind (Q := fun e w₁ => e = none ∧ w₁ = { w with files }) ?_ ?_
    · rw [Ends, hwrite]
      exact ⟨rfl, rfl⟩
    · rintro _ _ ⟨rfl, rfl⟩
      exact World.ends_log_bind (.pure (Saved.written (Config.store_eq_ok_iff.1 hstore)))
  | error e files =>
    have hwrite : World.write p c w = .ok (some e) { w with files } := by rw [World.write, hstore]
    refine .bind (Q := fun e' w₁ => e' = some e ∧ w₁ = { w with files }) ?_ ?_
    · rw [Ends, hwrite]
      exact ⟨rfl, rfl⟩
    · rintro _ _ ⟨rfl, rfl⟩
      dsimp only
      cases hreport : report e with
      | ok text =>
        show Ends (World.log [notWrittenRecord ⟨p.text, text⟩ op] >>= fun _ => pure false) _ _ _
        exact World.ends_log_bind (.pure (Saved.refused hstore hreport))
      | error failure => exact .throw ⟨e, files, hstore, hreport⟩

/-! ## Setting -/

/-- What is done in the world leaves the store. -/
theorem ends_inWorld_store {α : Type} (action : Action α) (r : Running) :
    Ends (inWorld action) r (fun _ r' => r'.store = r.store) fun _ r' => r'.store = r.store :=
  ends_inWorld (Ends.any.mono (fun _ _ _ => rfl) fun _ _ _ => rfl)

/-- Replacing makes the configuration the active one unless it fails. -/
theorem ends_replace_origin (r : Running) (given : Option Config) :
    Ends (replace given) r (fun _ r' => r'.store.origin = .active)
      fun _ r' => r'.store.origin = r.store.origin := by
  refine .get_bind (.bind (Q := fun _ r₁ => r₁.store.origin = r.store.origin)
    ((ends_inWorld_store _ r).mono (fun _ _ h => congrArg Store.origin h)
      fun _ _ h => congrArg Store.origin h) fun a r₁ h₁ => ?_)
  refine ends_change_bind (.get_bind (.bind (Q := fun _ _ => True) ?_
    fun written r₂ _ => ends_change_bind (.pure rfl)))
  exact (ends_inWorld_store _ _).mono (fun _ _ _ => trivial)
    fun _ _ h => (congrArg Store.origin h).trans h₁

/-- The configuration comes from a setting once one has not failed. -/
theorem ends_set_origin (r : Running) (given : Option Config) :
    Ends (set given) r (fun _ r' => r'.store.origin = .active)
      fun _ r' => r'.store.origin = r.store.origin := by
  have hreplace := ends_replace_origin r given
  rw [Ends, set]
  cases h : replace given r with
  | ok written r' =>
    have horigin := hreplace.of_ok h
    exact horigin
  | error e r' =>
    have horigin := hreplace.of_error h
    exact horigin

/-- Replacing with a configuration that is given saves that one, and it is the active one either
way. -/
theorem ends_replace_saved (r : Running) (c : Config) :
    Ends (replace (some c)) r
      (fun written r' => r'.store.config = c ∧ Saved r.store.path c r.world written r'.world)
      fun e _ => Unsaved r.store.path c r.world e := by
  refine .get_bind (.bind (Q := fun a r₁ => a = (c, .set) ∧ r = r₁)
    (ends_inWorld (.pure ⟨rfl, rfl⟩)) ?_)
  rintro _ _ ⟨rfl, rfl⟩
  have hsave := ends_save_saved r.world r.store.path .set c
  refine ends_change_bind (.get_bind (.bind (Q := fun written r₁ =>
    r₁.store.config = c ∧ Saved r.store.path c r.world written r₁.world)
    (ends_inWorld (hsave.mono (fun _ _ h => ⟨rfl, h⟩) fun _ _ h => h))
    fun written r₁ h => ends_change_bind (.pure h)))

/-- A configuration that is set is active, and saved if the setting has not failed. -/
theorem ends_set_saved (r : Running) (c : Config) :
    Ends (set (some c)) r
      (fun written r' => r'.store.config = c ∧
        ∃ w', Saved r.store.path c r.world written w' ∧ r'.world.files = w'.files)
      fun e _ => Unsaved r.store.path c r.world e := by
  have hreplace := ends_replace_saved r c
  rw [Ends, set]
  cases h : replace (some c) r with
  | ok written r' =>
    obtain ⟨hconfig, hsaved⟩ := hreplace.of_ok h
    exact ⟨hconfig, r'.world, hsaved, rfl⟩
  | error e r' => exact hreplace.of_error h

end Store
end Hotspot
