/-
# What a use of a store changes

A use changes a running store in one of five ways (`Running.MayBecome`), and in the same
ways when it fails.

| use | may change |
| --- | --- |
| `get`, `validate`, a lookup | the log |
| `setDualActive` | whether two hotspots are running |
| `localOnly` | what has been drawn; nothing if the name template cannot be shown |
| `set` | configuration, origin, files, what has been drawn, log; one notice is added |
-/

import Hotspot.Proofs.Config.Drawing
import Hotspot.Proofs.Store.Writing
import Hotspot.Store.Use

namespace Hotspot

variable {α : Type} {r : Store.Running}

/-! ## Drawing -/

namespace World

/-- A number and a UUID are drawn for a configuration, and nothing else changes. -/
theorem ends_draw_generate (w : World) (template : Text) (networkId : Int) :
    Ends (draw (Config.generate template networkId)) w
      (fun c w' => (∃ suffix u, c = Config.ofDraws template networkId suffix u) ∧
        ∃ entropy, w.entropy.Drew entropy ∧ w' = { w with entropy })
      (fun e w' => (∃ message, e = .draw message ∧ w.entropy.FailsWith message) ∧
        ∃ entropy, w.entropy.Drew entropy ∧ w' = { w with entropy }) := by
  have hends := w.entropy.ends_generate template networkId
  rw [Ends, draw]
  cases h : Config.generate template networkId w.entropy with
  | ok c entropy =>
    obtain ⟨hdrew, suffix, u, -, -, hc, -⟩ := hends.of_ok h
    exact ⟨⟨suffix, u, hc⟩, entropy, hdrew, rfl⟩
  | error message entropy =>
    obtain ⟨hdrew, hfails⟩ := hends.of_error h
    exact ⟨⟨message, rfl, hfails⟩, entropy, hdrew, rfl⟩

/-- Nothing is drawn where the name template cannot be shown. -/
theorem ends_drawFrom_generate (w : World) (template : Option Text) (networkId : Int) :
    Ends (drawFrom template fun template => Config.generate template networkId) w
      (fun c w' => (∃ template suffix u, c = Config.ofDraws template networkId suffix u) ∧
        ∃ entropy, w.entropy.Drew entropy ∧ w' = { w with entropy })
      (fun e w' => (template = none ∧ e = .unwritable ∧ w' = w) ∨
        (∃ message, e = .draw message ∧ w.entropy.FailsWith message) ∧
          ∃ entropy, w.entropy.Drew entropy ∧ w' = { w with entropy }) := by
  cases template with
  | none => exact .throw (.inl ⟨rfl, rfl, rfl⟩)
  | some template =>
    refine (ends_draw_generate w template networkId).mono ?_ fun _ _ h => .inr h
    rintro c w' ⟨⟨suffix, u, hc⟩, hdrew⟩
    exact ⟨⟨template, suffix, u, hc⟩, hdrew⟩

/-- What is drawn is known but for the number and the UUID. -/
theorem exists_ofDraws_of_drawn? {w : World} {template : Text} {networkId : Int} {c : Config}
    (h : w.drawn? (Config.generate template networkId) = some c) :
    ∃ suffix u, c = Config.ofDraws template networkId suffix u := by
  have hends := w.entropy.ends_generate template networkId
  rw [drawn?.eq_def] at h
  split at h
  · next hdrawn =>
    cases h
    obtain ⟨-, suffix, u, -, -, hc, -⟩ := hends.of_ok hdrawn
    exact ⟨suffix, u, hc⟩
  · cases h

end World

namespace Store

/-! ## Setting -/

/-- Saving touches the files and the log alone. -/
theorem ends_save_frame (w : World) (p : Path) (op : Operation) (c : Config) :
    Ends (save p op c) w (fun _ w' => ∃ files records, w' = { w with files, records })
      (fun _ w' => ∃ files records, w' = { w with files, records }) := by
  have hwrite : Ends (World.write p c) w (fun _ w' => ∃ files, w' = { w with files })
      (fun _ _ => False) := by
    rw [Ends, World.write]
    cases Config.store w.faults p c w.files <;> exact ⟨_, rfl⟩
  refine .bind (hwrite.mono (fun _ _ h => h) fun _ _ h => h.elim) ?_
  rintro e _ ⟨files, rfl⟩
  cases e with
  | none => exact World.ends_log_bind (.pure ⟨files, _, rfl⟩)
  | some e =>
    exact World.ends_orFail_bind (fun _ => ⟨files, _, rfl⟩) fun _ _ =>
      World.ends_log_bind (.pure ⟨files, _, rfl⟩)

/-- A running store with another configuration, from elsewhere, and what came with it. -/
def Running.replaced (r : Running) (config : Config) (origin : Origin) (files : FileSystem)
    (entropy : Entropy) (records : List Log.Record) : Running where
  store := { r.store with config, origin }
  world := { r.world with files, entropy, records }

/-- Replacing a configuration leaves path, overlay, channels, roles, concurrency and notices. -/
theorem ends_replace_frame (r : Running) (c : Option Config) :
    Ends (replace c) r
      (fun _ r' => ∃ config origin files entropy records,
        r' = r.replaced config origin files entropy records)
      (fun _ r' => ∃ config origin files entropy records,
        r' = r.replaced config origin files entropy records) := by
  refine .get_bind (.bind (Q := fun _ r₁ =>
    ∃ entropy, r₁ = { r with world := { r.world with entropy } })
    (ends_inWorld ((ends_incoming r c).mono ?_ ?_)) ?_)
  · rintro _ _ ⟨-, entropy, rfl⟩
    exact ⟨entropy, rfl⟩
  · rintro _ _ ⟨-, entropy, rfl⟩
    exact ⟨_, _, _, entropy, _, rfl⟩
  · rintro ⟨config, op⟩ _ ⟨entropy, rfl⟩
    have hsave := ends_save_frame { r.world with entropy } r.store.path op config
    refine ends_change_bind (.get_bind (.bind (Q := fun _ r₂ => ∃ files records,
      r₂ = r.replaced config r.store.origin files entropy records)
      (ends_inWorld (hsave.mono ?_ ?_)) ?_))
    · rintro _ _ ⟨files, records, rfl⟩
      exact ⟨files, records, rfl⟩
    · rintro _ _ ⟨files, records, rfl⟩
      exact ⟨config, _, files, entropy, records, rfl⟩
    · rintro written _ ⟨files, records, rfl⟩
      exact ends_change_bind (.pure ⟨config, .active, files, entropy, records, rfl⟩)

/-! ## Uses -/

/-- A use that changes nothing but the log. -/
def Use.isReading : Use → Bool
  | .ask .get | .ask (.validate _) | .lookUp _ => true
  | .ask (.set _) | .ask .localOnly | .ask (.setDualActive _) => false

/-- A running store whose backup service was told of a change. -/
def Running.notified (r : Running) : Running :=
  { r with world := { r.world with backup := r.world.backup.notify } }

/-- What a running store may become by a use. -/
inductive Running.MayBecome (r : Running) : Use → Running → Prop
  | read {use : Use} {records : List Log.Record} : use.isReading = true →
      MayBecome r use { r with world := { r.world with records } }
  | dual (active : Bool) :
      MayBecome r (.ask (.setDualActive active)) { r with store := r.store.setDualActive active }
  | drew {entropy : Entropy} : r.world.entropy.Drew entropy →
      MayBecome r (.ask .localOnly) { r with world := { r.world with entropy } }
  | refused : r.store.overlay.localTemplate? = none → MayBecome r (.ask .localOnly) r
  | set {c : Option Config} (config : Config) (origin : Origin) (files : FileSystem)
      (entropy : Entropy) (records : List Log.Record) :
      MayBecome r (.ask (.set c)) (r.replaced config origin files entropy records).notified

/-- Setting one notifies the service in addition, also if it fails. -/
theorem ends_set_frame (r : Running) (c : Option Config) :
    Ends (set c) r (fun _ r' => r.MayBecome (.ask (.set c)) r')
      (fun _ r' => r.MayBecome (.ask (.set c)) r') := by
  have hreplace := ends_replace_frame r c
  rw [Ends, set]
  cases h : replace c r with
  | ok written r' =>
    obtain ⟨config, origin, files, entropy, records, rfl⟩ := hreplace.of_ok h
    exact .set config origin files entropy (records ++ r.world.backup.notify.records)
  | error e r' =>
    obtain ⟨config, origin, files, entropy, records, rfl⟩ := hreplace.of_error h
    exact .set config origin files entropy (records ++ r.world.backup.notify.records)

/-- A configuration for one session is drawn, and nothing but the draws is changed, also if it
fails. -/
theorem ends_localOnly (r : Running) :
    Ends localOnly r
      (fun c r' => c.networkId = Config.localOnlyNetworkId ∧
        ∃ entropy, r.world.entropy.Drew entropy ∧ r' = { r with world := { r.world with entropy } })
      (fun e r' => (r.store.overlay.localTemplate? = none ∧ e = .unwritable ∧ r' = r) ∨
        (∃ message, e = .draw message ∧ r.world.entropy.FailsWith message) ∧
          ∃ entropy, r.world.entropy.Drew entropy ∧
            r' = { r with world := { r.world with entropy } }) := by
  refine .get_bind (ends_inWorld ((World.ends_drawFrom_generate r.world
    r.store.overlay.localTemplate? Config.localOnlyNetworkId).mono ?_ ?_))
  · rintro _ _ ⟨⟨template, suffix, u, rfl⟩, entropy, hdrew, rfl⟩
    exact ⟨rfl, entropy, hdrew, rfl⟩
  · rintro e _ (⟨htemplate, he, rfl⟩ | ⟨hfails, entropy, hdrew, rfl⟩)
    · exact .inl ⟨htemplate, he, rfl⟩
    · exact .inr ⟨hfails, entropy, hdrew, rfl⟩

/-- **What a use changes**, whether or not it fails. -/
theorem ends_use (r : Running) (u : Use) :
    Ends (use u) r (fun _ r' => r.MayBecome u r') (fun _ r' => r.MayBecome u r') := by
  cases u with
  | lookUp lookup => exact .of_eq_ok rfl (.read rfl)
  | ask request =>
    cases request with
    | get => exact .of_eq_ok rfl (.read rfl)
    | validate c => exact .of_eq_ok rfl (.read rfl)
    | setDualActive active => exact .of_eq_ok rfl (.dual active)
    | localOnly =>
      refine .bind (.bind ((ends_localOnly r).mono ?_ ?_) fun _ _ h => .pure h)
        fun _ _ h => .pure h
      · rintro _ _ ⟨-, entropy, hdrew, rfl⟩
        exact .drew hdrew
      · rintro _ _ (⟨htemplate, -, rfl⟩ | ⟨-, entropy, hdrew, rfl⟩)
        · exact .refused htemplate
        · exact .drew hdrew
    | set c =>
      exact .bind (.bind (ends_set_frame r c) fun _ _ h => .pure h) fun _ _ h => .pure h

/-- So what a use leaves is known without knowing how it ends. -/
theorem Running.mayBecome_after (r : Running) (u : Use) : r.MayBecome u (r.after (use u)) :=
  after_of_ends (ends_use r u)

end Store
end Hotspot
