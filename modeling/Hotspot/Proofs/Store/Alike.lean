/-
# Stores in step

Two stores that are asked the same may differ in things that do not matter to what
is looked at. A `Kinship` says in what: it relates the configurations, the settings of
concurrency, the files and the logs that count as the same. Two stores that differ in
nothing else stay so, whatever is set, and the random inputs and the backup service
are the same for both.

| the same for both | related |
| --- | --- |
| path, overlay, origin, channels, roles | active configuration, concurrency |
| random inputs, backup service, what stands in the way | files, log |
-/

import Hotspot.Proofs.Lockstep
import Hotspot.Store.Request

namespace Hotspot

/-- In what two runs of a store may differ. Logs that are related stay related when
the same is logged, and writing configurations that are related ends alike. -/
structure Kinship where
  config : Config → Config → Prop
  concurrency : Concurrency → Concurrency → Prop
  files : FileSystem → FileSystem → Prop
  records : List Log.Record → List Log.Record → Prop
  config_refl : ∀ c, config c c
  records_append : ∀ l l' more, records l l' → records (l ++ more) (l' ++ more)
  lockstep_store : ∀ c c' faults p, config c c' →
    Lockstep files (· = ·) (Config.store faults p c) (Config.store faults p c')

variable {k : Kinship} {α ε : Type} {c c' : Config}

/-! ## The world -/

/-- Two worlds that differ in files and logs that are related. -/
structure World.Alike (k : Kinship) (w w' : World) : Prop where
  files : k.files w.files w'.files
  faults : w.faults = w'.faults
  depth : w.depth = w'.depth
  entropy : w.entropy = w'.entropy
  backup : w.backup = w'.backup
  records : k.records w.records w'.records

namespace World

/-- What is logged is the same on both sides, and nothing reads the log. -/
theorem lockstep_log (records : List Log.Record) :
    Lockstep (World.Alike k) (· = ·) (log records) (log records) :=
  .modify fun _ _ h => { h with records := k.records_append _ _ _ h.records }

/-- Both sides notify the service, which logs or not alike. -/
theorem lockstep_notifyBackup : Lockstep (World.Alike k) (· = ·) notifyBackup notifyBackup := by
  refine .bind_eq (.modify fun _ _ h => { h with backup := congrArg Backup.notify h.backup })
    fun _ => .bind .get fun w w' h => ?_
  rw [h.backup]
  exact lockstep_log _

/-- A result is the same on both sides, and so is its failure. -/
theorem lockstep_orFail (wrap : ε → Failure) (result : Except ε α) :
    Lockstep (World.Alike k) (· = ·) (orFail wrap result) (orFail wrap result) := by
  cases result with
  | ok a => exact .pure rfl
  | error e => exact .throw _

/-- Both sides draw the same. -/
theorem lockstep_draw (generator : EStateM Text Entropy Config) :
    Lockstep (World.Alike k) (· = ·) (draw generator) (draw generator) := by
  intro w w' h
  rw [draw, draw, h.entropy]
  cases generator w'.entropy with
  | ok c entropy => exact ⟨rfl, { h with entropy := rfl }⟩
  | error message entropy => exact ⟨rfl, { h with entropy := rfl }⟩

/-- So they do for a template, or neither can show it. -/
theorem lockstep_drawFrom (template : Option Text)
    (generator : Text → EStateM Text Entropy Config) :
    Lockstep (World.Alike k) (· = ·) (drawFrom template generator)
      (drawFrom template generator) := by
  cases template with
  | none => exact .throw _
  | some template => exact lockstep_draw _

/-- Writing fails alike. -/
theorem lockstep_write (h : k.config c c') (p : Path) :
    Lockstep (World.Alike k) (· = ·) (write p c) (write p c') := by
  intro w w' hw
  rw [write, write, hw.faults]
  rcases (k.lockstep_store c c' w'.faults p h).cases hw.files with
    ⟨_, fs, _, fs', hstore, hstore', -, hfs⟩ | ⟨e, fs, fs', hstore, hstore', hfs⟩
  · rw [hstore, hstore']
    exact ⟨rfl, { hw with files := hfs, faults := rfl }⟩
  · rw [hstore, hstore']
    exact ⟨rfl, { hw with files := hfs, faults := rfl }⟩

/-- The backup service is told alike. -/
theorem Alike.notified {w w' : World} (h : w.Alike k w') :
    (match notifyBackup w with | .ok _ w | .error _ w => w).Alike k
      (match notifyBackup w' with | .ok _ w | .error _ w => w) := by
  rcases lockstep_notifyBackup.cases h with ⟨_, v, _, v', hv, hv', -, h⟩ | ⟨_, v, v', hv, hv', h⟩
  · rw [hv, hv']
    exact h
  · rw [hv, hv']
    exact h

end World

/-! ## The store -/

namespace Store

/-- Configurations that belong together are saved in step, since they are stored in step. -/
theorem lockstep_save (h : k.config c c') (p : Path) (op : Operation) :
    Lockstep (World.Alike k) (· = ·) (save p op c) (save p op c') := by
  refine .bind_eq (World.lockstep_write h p) fun e => ?_
  cases e with
  | none => exact .bind_eq (World.lockstep_log _) fun _ => .pure rfl
  | some e =>
    exact .bind_eq (World.lockstep_orFail _ _) fun _ =>
      .bind_eq (World.lockstep_log _) fun _ => .pure rfl

/-- Two running stores that differ in configurations, concurrencies, files and logs that
are related. -/
structure Running.Alike (k : Kinship) (r r' : Running) : Prop where
  store : { r.store with config := r'.store.config, concurrency := r'.store.concurrency } = r'.store
  config : k.config r.store.config r'.store.config
  concurrency : k.concurrency r.store.concurrency r'.store.concurrency
  world : r.world.Alike k r'.world

/-- The calls that fail may be chosen anew, for both sides alike. -/
theorem Running.Alike.withFaults {r r' : Running} (h : r.Alike k r') (faults : Faults) :
    (r.withFaults faults).Alike k (r'.withFaults faults) :=
  { h with world := { h.world with faults := rfl } }

/-- What is in step in the world is in step on a store, which it does not touch. -/
theorem lockstep_inWorld {V : α → α → Prop} {action action' : Action α}
    (h : Lockstep (World.Alike k) V action action') :
    Lockstep (Running.Alike k) V (inWorld action) (inWorld action') := by
  intro r r' hr
  rw [inWorld, inWorld]
  rcases h.cases hr.world with ⟨a, w, a', w', ha, ha', hV, hw⟩ | ⟨e, w, w', he, he', hw⟩
  · rw [ha, ha']
    exact ⟨hV, { hr with world := hw }⟩
  · rw [he, he']
    exact ⟨rfl, { hr with world := hw }⟩

/-- Configurations that are given belong together, and so do fresh ones, which are the same. -/
theorem lockstep_incoming {c c' : Option Config} (h : Option.Rel k.config c c') (o : Overlay) :
    Lockstep (World.Alike k) (fun a a' => k.config a.1 a'.1 ∧ a.2 = a'.2) (incoming o c)
      (incoming o c') := by
  cases h with
  | none => exact .bind_eq (World.lockstep_drawFrom _ _) fun c => .pure ⟨k.config_refl c, rfl⟩
  | some h => exact .pure ⟨h, rfl⟩

/-- Setting either of them leaves stores that belong together. -/
theorem lockstep_replace {c c' : Option Config} (h : Option.Rel k.config c c') :
    Lockstep (Running.Alike k) (· = ·) (replace c) (replace c') := by
  refine .bind .get fun r r' hr => ?_
  have hoverlay : r.store.overlay = r'.store.overlay := by rw [← hr.store]
  rw [hoverlay]
  refine .bind (lockstep_inWorld (lockstep_incoming h _)) ?_
  rintro ⟨c, op⟩ ⟨c', -⟩ ⟨hc, rfl⟩
  refine .bind_eq (.modify fun s s' hs => ?_) fun _ => .bind .get fun s s' hs => ?_
  · exact ⟨by rw [← hs.store], hc, hs.concurrency, hs.world⟩
  · have hpath : s.store.path = s'.store.path := by rw [← hs.store]
    rw [hpath]
    refine .bind_eq (lockstep_inWorld (lockstep_save hc _ op)) fun written =>
      .bind_eq (.modify fun t t' ht => ?_) fun _ => .pure rfl
    exact ⟨by rw [← ht.store], ht.config, ht.concurrency, ht.world⟩

/-- Setting ends alike. -/
theorem lockstep_set {c c' : Option Config} (h : Option.Rel k.config c c') :
    Lockstep (Running.Alike k) (· = ·) (set c) (set c') := by
  intro r r' hr
  rw [set, set]
  dsimp only
  rcases (lockstep_replace h).cases hr with
    ⟨written, t, _, t', ht, ht', rfl, h⟩ | ⟨e, t, t', ht, ht', h⟩
  · rw [ht, ht']
    exact ⟨rfl, { h with world := h.world.notified }⟩
  · rw [ht, ht']
    exact ⟨rfl, { h with world := h.world.notified }⟩

/-- A configuration that is never stored is made up alike. -/
theorem lockstep_localOnly : Lockstep (Running.Alike k) (· = ·) localOnly localOnly := by
  refine .bind .get fun r r' hr => ?_
  have hoverlay : r.store.overlay = r'.store.overlay := by rw [← hr.store]
  rw [hoverlay]
  exact lockstep_inWorld (World.lockstep_drawFrom _ _)

end Store
end Hotspot
