/-
# What the store writes

A store writes where it starts, if it has to make a configuration up, and where
it is handed one. In either case the configuration is the active one by then,
whether or not it can be written; and it is on file afterwards, or the path is
spared. Nothing else the store does touches a file.
-/

import Hotspot.Proofs.Config.Storing
import Hotspot.Store.Request

namespace Hotspot

open Config (Spares Stored)

variable {α : Type} {fs fs' fs'' : FileSystem} {w : World} {p : Path} {o : Overlay}

/-- What is at a path after the last configuration was written there; the path is
spared if none was. -/
def Config.Holds (p : Path) (fs : FileSystem) (written : Option Config) (fs' : FileSystem) : Prop :=
  match written with
  | none => Spares p fs fs'
  | some c => Stored p c fs'

namespace Config.Holds

variable {written written' : Option Config}

/-- Of two writings the later one is what is held. -/
theorem trans (h : Holds p fs written fs') (h' : Holds p fs' written' fs'') :
    Holds p fs (written'.or written) fs'' := by
  cases written' with
  | some c => exact h'
  | none =>
    cases written with
    | none => exact Spares.trans h h'
    | some c => exact Spares.stored h' h

end Config.Holds

open Config (Holds)

namespace World

/-- What holds before an action holds after it. -/
def Preserves (P : World → Prop) (action : Action α) : Prop :=
  ∀ w, P w → Ends action w (fun _ => P) (fun _ => P)

/-- The log has no part in a property. -/
def IgnoresLog (P : World → Prop) : Prop :=
  ∀ w records, P w → P { w with records }

namespace Preserves

variable {P : World → Prop}

/-- Giving a value changes nothing. -/
theorem pure (a : α) : Preserves P (Pure.pure a) := fun _ h => .pure h

/-- Nor does reading the world. -/
theorem get : Preserves P MonadState.get := fun _ h => .get h

/-- What two actions preserve one after the other their sequence preserves. -/
theorem bind {β : Type} {action : Action α} {f : α → Action β} (h : Preserves P action)
    (hf : ∀ a, Preserves P (f a)) : Preserves P (action >>= f) :=
  fun w hw => .bind (h w hw) fun a w' hw' => hf a w' hw'

/-- Logging preserves what the log has no part in. -/
theorem log (hP : IgnoresLog P) (records : List Log.Record) : Preserves P (World.log records) :=
  fun _ h => .modify (hP _ _ h)

/-- Failing changes nothing. -/
theorem orFail {ε : Type} (wrap : ε → Failure) (e : Except ε α) :
    Preserves P (World.orFail wrap e) := by
  intro w h
  cases e with
  | ok a => exact .pure h
  | error e => exact .throw h

end Preserves

/-- After logging, what follows starts with more records. -/
theorem ends_log_bind {records : List Log.Record} {f : Unit → Action α} {Q : α → World → Prop}
    {E : Failure → World → Prop} (h : Ends (f ()) { w with records := w.records ++ records } Q E) :
    Ends (log records >>= f) w Q E := .modify_bind h

/-- After a result, what follows starts with its value, or there is none and the world is as it
was. -/
theorem ends_orFail_bind {ε β : Type} {wrap : ε → Failure} {result : Except ε β}
    {f : β → Action α} {Q : α → World → Prop} {E : Failure → World → Prop}
    (herror : ∀ e, E e w) (h : ∀ b, result = .ok b → Ends (f b) w Q E) :
    Ends (orFail wrap result >>= f) w Q E := by
  cases result with
  | ok b => exact .pure_bind (h b rfl)
  | error e => exact .throw_bind (herror (wrap e))

/-- The configuration that is drawn, if one is. -/
def drawn? (generator : EStateM Text Entropy Config) (w : World) : Option Config :=
  match generator w.entropy with
  | .ok c _ => some c
  | .error .. => none

/-- Drawing gives what is drawn and changes nothing but the random inputs. -/
theorem ends_draw (generator : EStateM Text Entropy Config) (w : World) :
    Ends (draw generator) w
      (fun c w' => w.drawn? generator = some c ∧ ∃ entropy, w' = { w with entropy })
      (fun _ w' => w.drawn? generator = none ∧ ∃ entropy, w' = { w with entropy }) := by
  rw [Ends, draw, drawn?.eq_def]
  cases generator w.entropy with
  | ok c entropy => exact ⟨rfl, entropy, rfl⟩
  | error message entropy => exact ⟨rfl, entropy, rfl⟩

/-- The configuration that is drawn from a name template, if that can be shown and one is
drawn. -/
def drawnFrom? (template : Option Text) (generator : Text → EStateM Text Entropy Config)
    (w : World) : Option Config :=
  template.bind fun template => w.drawn? (generator template)

/-- Drawing for a template gives what is drawn, if the template can be shown, and changes
nothing but the random inputs. -/
theorem ends_drawFrom (template : Option Text) (generator : Text → EStateM Text Entropy Config)
    (w : World) :
    Ends (drawFrom template generator) w
      (fun c w' => w.drawnFrom? template generator = some c ∧ ∃ entropy, w' = { w with entropy })
      (fun _ w' => w.drawnFrom? template generator = none ∧
        ∃ entropy, w' = { w with entropy }) := by
  cases template with
  | none => exact .throw ⟨rfl, w.entropy, rfl⟩
  | some template => exact ends_draw (generator template) w

/-- A configuration can be written. -/
def canWrite (w : World) (p : Path) (c : Config) : Bool :=
  match Config.store w.faults p c w.files with
  | .ok .. => true
  | .error .. => false

/-- What writing a configuration leaves on file. -/
theorem ends_write (p : Path) (c : Config) (w : World) :
    Ends (write p c) w
      (fun e w' => e.isNone = w.canWrite p c ∧
        Holds p w.files (if e.isNone then some c else none) w'.files)
      (fun _ _ => False) := by
  have hstore := Config.ends_store w.faults p c w.files
  rw [Ends, write, canWrite]
  cases h : Config.store w.faults p c w.files with
  | ok _ files => exact ⟨rfl, hstore.of_ok h⟩
  | error e files => exact ⟨rfl, hstore.of_error h⟩

/-- A world without files, where the same is drawn again and again. -/
def bare : World where
  files := .bare
  entropy := { suffix := fun _ => .ok 4242, uuid := fun _ => .ok ⟨0, by decide⟩ }

/-- A world with a configuration on file, which others may read. -/
def holdingOld : World where
  files := {
    workingDirectory := .root
    entries := [(Location.root.child (Path.bytes "softap.conf"),
      .file ((Config.encode { ssid := some "old" }).toOption.getD []) 0o644)] }
  entropy := bare.entropy

end World

namespace Store

/-! ## Writing -/

/-- The configuration is on file, or the path is spared. -/
theorem ends_save (p : Path) (op : Operation) (c : Config) (w : World) :
    Ends (save p op c) w
      (fun written w' => written = w.canWrite p c ∧
        Holds p w.files (if written then some c else none) w'.files)
      (fun _ w' => w.canWrite p c = false ∧ Spares p w.files w'.files) := by
  refine .bind (.mono (World.ends_write p c w) (fun _ _ h => h) fun _ _ h => h.elim)
    fun e w₁ ⟨hcan, hholds⟩ => ?_
  cases e with
  | none => exact World.ends_log_bind (.pure ⟨hcan, hholds⟩)
  | some e =>
    exact World.ends_orFail_bind (fun _ => ⟨hcan.symm, hholds⟩) fun _ _ =>
      World.ends_log_bind (.pure ⟨hcan, hholds⟩)

open World (Preserves IgnoresLog)

/-- Saving preserves what writing does: all else is logging. -/
theorem preserves_save {P : World → Prop} (hP : IgnoresLog P) {c : Config}
    (hwrite : Preserves P (World.write p c)) (op : Operation) : Preserves P (save p op c) :=
  .bind hwrite fun e =>
    match e with
    | none => .bind (.log hP _) fun _ => .pure _
    | some _ => .bind (.orFail _ _) fun _ => .bind (.log hP _) fun _ => .pure _

/-! ## Starting -/

/-- The configuration of a path as a store takes it over: the active one, and the one
that was written, if one was. -/
structure Ledger where
  active : Config
  onFile : Option Config
  deriving DecidableEq, Repr

/-- A store starts with the configuration at its path, or with one that it makes up
and writes if it can. -/
def Ledger.opening (o : Overlay) (p : Path) (w : World) : Option Ledger :=
  match Config.load w.files p with
  | .ok c => some ⟨c, none⟩
  | .error _ => (w.drawnFrom? o.template? Config.generateDefault).map fun c =>
    ⟨c, if w.canWrite p c then some c else none⟩

/-- Falling back draws a default, and holds it if it could be written. -/
theorem ends_fallBack (o : Overlay) (p : Path) (w : World) :
    Ends (fallBack o p) w
      (fun a w' => w.drawnFrom? o.template? Config.generateDefault = some a.1 ∧
        Holds p w.files (if w.canWrite p a.1 then some a.1 else none) w'.files)
      (fun _ w' => Spares p w.files w'.files) := by
  refine .bind (.mono (World.ends_drawFrom _ _ w) (fun _ _ h => h) ?_) ?_
  · rintro - _ ⟨-, entropy, rfl⟩
    exact .refl p w.files
  · rintro c _ ⟨hdrawn, entropy, rfl⟩
    have hsave := ends_save p .init c { w with entropy }
    refine .bind (hsave.mono (fun _ _ h => h) fun _ _ h => h.2) ?_
    rintro written w₂ ⟨rfl, hholds⟩
    split <;> exact .pure ⟨hdrawn, hholds⟩

/-- The store starts as its ledger says. A failure leaves nothing on file that was not
made up. -/
theorem ends_startConfig (o : Overlay) (p : Path) (w : World) :
    Ends (startConfig o p) w
      (fun a w' => ∃ l, Ledger.opening o p w = some l ∧ a.1 = l.active ∧
        Holds p w.files l.onFile w'.files)
      (fun _ w' => Spares p w.files w'.files) := by
  refine .get_bind ?_
  split
  · next c hload =>
    refine World.ends_log_bind (.pure ⟨⟨c, none⟩, ?_, rfl, .refl p w.files⟩)
    rw [Ledger.opening, hload]
  · next e hload =>
    refine World.ends_orFail_bind (fun _ => .refl p w.files) fun ⟨kind, detail⟩ _ =>
      World.ends_log_bind ?_
    have hfallBack :=
      ends_fallBack o p { w with records := w.records ++ [fallbackRecord p kind detail] }
    refine hfallBack.mono ?_ fun _ _ h => h
    rintro ⟨c, origin⟩ w' ⟨hdrawn, hholds⟩
    refine ⟨⟨c, if w.canWrite p c then some c else none⟩, ?_, rfl, hholds⟩
    rw [Ledger.opening, hload]
    exact congrArg (Option.map _) hdrawn

/-- The only configuration that a store writes when it starts is a default. -/
theorem Ledger.drawn?_of_onFile {l : Ledger} (h : Ledger.opening o p w = some l) {c : Config}
    (hc : l.onFile = some c) : w.drawnFrom? o.template? Config.generateDefault = some c := by
  rw [Ledger.opening] at h
  split at h
  · cases h
    cases hc
  · obtain ⟨c', hdrawn, rfl⟩ := Option.map_eq_some_iff.1 h
    obtain ⟨-, rfl⟩ : w.canWrite p c' = true ∧ c' = c := by simpa using hc
    exact hdrawn

/-- Finding the channels logs and changes nothing else. -/
theorem preserves_startChannels {P : World → Prop} (hP : IgnoresLog P) (o : Overlay) :
    Preserves P (startChannels o) :=
  .bind (.log hP _) fun _ => .bind (.orFail _ _) fun _ => .bind (.log hP _) fun _ => .pure _

/-- So does finding the concurrency. -/
theorem preserves_startConcurrency {P : World → Prop} (hP : IgnoresLog P) (o : Overlay)
    (template : Path) : Preserves P (startConcurrency o template) :=
  .bind (.orFail _ _) fun _ => .bind .get fun _ => .bind (.orFail _ _) fun _ =>
    .bind (.log hP _) fun _ => .orFail _ _

/-- What drawing and writing a default preserve, a start does. -/
theorem preserves_startConfig {P : World → Prop} (hP : IgnoresLog P)
    (hdraw : Preserves P (World.drawFrom o.template? Config.generateDefault))
    (hwrite : ∀ c (w : World), w.drawnFrom? o.template? Config.generateDefault = some c →
      Preserves P (World.write p c)) : Preserves P (startConfig o p) := by
  have hfallBack : Preserves P (fallBack o p) := by
    intro w hw
    refine .bind (((hdraw w hw).and (World.ends_drawFrom _ _ w)).mono (fun _ _ h => h)
      fun _ _ h => h.1) fun c w₁ ⟨hw₁, hdrawn, _⟩ => ?_
    refine .bind (preserves_save hP (hwrite c w hdrawn) .init w₁ hw₁) fun written w₂ hw₂ => ?_
    cases written <;> exact .pure hw₂
  refine .bind .get fun w => ?_
  split
  · exact .bind (.log hP _) fun _ => .pure _
  · exact .bind (.orFail _ _) fun _ => .bind (.log hP _) fun _ => hfallBack

/-- So a start preserves what opening the configuration does. -/
theorem preserves_start {P : World → Prop} (hP : IgnoresLog P)
    (hconfig : Preserves P (startConfig o p)) (template : Path) :
    Preserves P (start o p template) :=
  .bind hconfig fun _ => .bind (preserves_startChannels hP o) fun _ =>
    .bind (.orFail _ _) fun _ => .bind (preserves_startConcurrency hP o template) fun _ => .pure _

/-- **A store starts as its ledger says**, and a start that fails writes a default at
most. -/
theorem ends_start (o : Overlay) (p template : Path) (w : World) :
    Ends (start o p template) w
      (fun s w' => ∃ l, Ledger.opening o p w = some l ∧ s.path = p ∧ s.overlay = o ∧
        s.config = l.active ∧ Holds p w.files l.onFile w'.files)
      (fun _ w' => ∃ written,
        (∀ c, written = some c → w.drawnFrom? o.template? Config.generateDefault = some c) ∧
        Holds p w.files written w'.files) := by
  refine .bind (.mono (ends_startConfig o p w) (fun _ _ h => h) fun _ _ h => ⟨none, nofun, h⟩) ?_
  rintro ⟨config, origin⟩ w₁ ⟨l, hl, rfl, hholds⟩
  have hlog : IgnoresLog fun w' => Holds p w.files l.onFile w'.files := fun _ _ h => h
  have herror : ∀ (_ : Failure) (w' : World), Holds p w.files l.onFile w'.files → ∃ written,
      (∀ c, written = some c → w.drawnFrom? o.template? Config.generateDefault = some c) ∧
      Holds p w.files written w'.files :=
    fun _ w' h => ⟨l.onFile, fun c hc => Ledger.drawn?_of_onFile hl hc, h⟩
  refine .bind (.mono (preserves_startChannels hlog o w₁ hholds) (fun _ _ h => h) herror)
    fun channels w₂ h₂ => ?_
  refine .bind (.mono (Preserves.orFail _ _ w₂ h₂) (fun _ _ h => h) herror)
    fun candidates w₃ h₃ => ?_
  refine .bind (.mono (preserves_startConcurrency hlog o template w₃ h₃) (fun _ _ h => h) herror)
    fun concurrency w₄ h₄ => ?_
  exact .pure ⟨l, hl, rfl, rfl, rfl, h₄⟩

/-! ## Setting -/

variable {r : Running}

/-- What a step ends in on either side is what it leaves. -/
theorem after_of_ends {step : Step α} {P : Running → Prop}
    (h : Ends step r (fun _ => P) (fun _ => P)) : P (r.after step) := by
  rw [Running.after]
  cases hstep : step r with
  | ok a r' => exact h.of_ok hstep
  | error e r' => exact h.of_error hstep

/-- What is done in the world leaves the store. -/
theorem ends_inWorld {action : Action α} {Q : α → Running → Prop} {E : Failure → Running → Prop}
    (h : Ends action r.world (fun a w => Q a { r with world := w })
      (fun e w => E e { r with world := w })) : Ends (inWorld action) r Q E := by
  rw [Ends, inWorld]
  cases h' : action r.world with
  | ok a w => exact h.of_ok h'
  | error e w => exact h.of_error h'

/-- After a change of the store, what follows starts with the changed one. -/
theorem ends_change_bind {f : Store → Store} {g : Unit → Step α} {Q : α → Running → Prop}
    {E : Failure → Running → Prop} (h : Ends (g ()) { r with store := f r.store } Q E) :
    Ends (change f >>= g) r Q E := .modify_bind h

/-- The configuration that becomes active when one is set, or a fresh one: none if it
cannot be drawn. -/
def adopted (r : Running) : Option Config → Option Config
  | some c => some c
  | none => r.world.drawnFrom? r.store.overlay.template? Config.generateDefault

/-- The configuration that comes in is the one given or one that is drawn. -/
theorem ends_incoming (r : Running) (c : Option Config) :
    Ends (incoming r.store.overlay c) r.world
      (fun a w' => adopted r c = some a.1 ∧ ∃ entropy, w' = { r.world with entropy })
      (fun _ w' => adopted r c = none ∧ ∃ entropy, w' = { r.world with entropy }) := by
  cases c with
  | some c => exact .pure ⟨rfl, r.world.entropy, rfl⟩
  | none =>
    exact .bind (World.ends_drawFrom _ _ r.world) fun c w' h => .pure h

/-- It becomes the active one if there is one, whether or not it can be written. Then it is
held, or the path is spared. -/
theorem ends_replace (r : Running) (c : Option Config) :
    Ends (replace c) r
      (fun written r' => ∃ c', adopted r c = some c' ∧
        r'.store = { r.store with config := c', origin := .active } ∧
        Holds r.store.path r.world.files (if written then some c' else none) r'.world.files)
      (fun _ r' => r'.store = { r.store with config := (adopted r c).getD r.store.config } ∧
        Spares r.store.path r.world.files r'.world.files) := by
  refine .get_bind (.bind (Q := fun a r' => adopted r c = some a.1 ∧
    ∃ entropy, r' = { r with world := { r.world with entropy } })
    (ends_inWorld ((ends_incoming r c).mono ?_ ?_)) ?_)
  · rintro a _ ⟨hsome, entropy, rfl⟩
    exact ⟨hsome, entropy, rfl⟩
  · rintro e _ ⟨hnone, entropy, rfl⟩
    rw [hnone]
    exact ⟨rfl, .refl ..⟩
  · rintro ⟨c', op⟩ _ ⟨hsome, entropy, rfl⟩
    rw [hsome]
    have hsave := ends_save r.store.path op c' { r.world with entropy }
    refine ends_change_bind (.get_bind (.bind (Q := fun written r' =>
      r'.store = { r.store with config := c' } ∧
        Holds r.store.path r.world.files (if written then some c' else none) r'.world.files)
      (ends_inWorld (hsave.mono (fun _ _ h => ⟨rfl, h.2⟩) fun _ _ h => ⟨rfl, h.2⟩)) ?_))
    rintro written r' ⟨hstore, hholds⟩
    refine ends_change_bind (.pure ⟨c', rfl, ?_, hholds⟩)
    rw [hstore]

/-- **What is set is active, and on file or not.** -/
theorem ends_set (r : Running) (c : Option Config) :
    Ends (set c) r
      (fun written r' => ∃ c', adopted r c = some c' ∧
        r'.store = { r.store with config := c', origin := .active } ∧
        Holds r.store.path r.world.files (if written then some c' else none) r'.world.files)
      (fun _ r' => r'.store = { r.store with config := (adopted r c).getD r.store.config } ∧
        Spares r.store.path r.world.files r'.world.files) := by
  have hreplace := ends_replace r c
  rw [Ends, set]
  cases h : replace c r with
  | ok written r' =>
    obtain ⟨c', hadopted, hstore, hholds⟩ := hreplace.of_ok h
    exact ⟨c', hadopted, hstore, hholds⟩
  | error e r' =>
    obtain ⟨hstore, hspares⟩ := hreplace.of_error h
    exact ⟨hstore, hspares⟩

end Store
end Hotspot
