/-
# What is set is shown

Of all commands only `set` and `reset` write over a file that is read, and both tell
whether they did. So a configuration that was set stays on file, through any command
lines that do not tell of a writing, until a run of `show` loads and shows it.

| run | on file before | on file after |
| --- | --- | --- |
| `set`, which tells of a writing | anything | `c` |
| any that tells of none | `c` | `c` |
| `show` | `c` | `c`, which is the answer |

What is shown is what was asked for: an acceptable configuration is read back as it is.
-/

import Hotspot.Proofs.CommandLine.Arguments
import Hotspot.Proofs.CommandLine.Safety
import Hotspot.Proofs.Store.Loading

namespace Hotspot

open Config (Spares Stored)

namespace CommandLine

open Store (Running)

variable {p : Path} {c : Config} {w w' w₀ w₁ w₂ : World} {r : Running} {request : Request}
  {run : Invoked}

/-! ## Answers -/

/-- An answer says that a configuration was written. -/
def Answer.tellsWritten (a : Answer) : Bool :=
  match a.json with
  | .object members =>
    match Json.Members.get? members "written" with
    | some (.bool written) => written
    | _ => false
  | _ => false

/-- A run ends with such an answer. -/
def Ending.tellsWritten : Ending → Bool
  | .answered a => a.tellsWritten
  | _ => false

@[simp]
theorem tellsWritten_setAnswer (written : Bool) (config : Json) :
    (setAnswer written config).tellsWritten = written := rfl

/-! ## Requests -/

/-- A request as it is shown with its key: without one the network is open, and a key is
one of WPA2. -/
def Request.revealed (request : Request) (band channel : Int) : Json :=
  .object [
    ("ssid", .text request.ssid),
    ("ap_band", .int band),
    ("ap_channel", .int channel),
    ("auth_type", .text request.security.keyManagement.name),
    ("security", .text request.security.name),
    ("pre_shared_key", Config.optionalText request.key),
    ("network_id", .int (-1))]

namespace Request

end Request

/-! ## Commands -/

/-- What `set` tells is so: a configuration that may be written is on file, or the path is
spared. -/
theorem ends_onStore_set (r : Running) (request : Request) :
    Ends (onStore (.set request)) r
      (fun a r' => if a.tellsWritten then
          request.config.check = none ∧ request.lacksNumber = false ∧
            Stored r.store.path request.config r'.world.files
        else Spares r.store.path r.world.files r'.world.files)
      (fun _ r' => Spares r.store.path r.world.files r'.world.files) := by
  refine .bind (.mono (ends_check request.config) (fun _ _ h => h) fun _ _ h => h.elim) ?_
  rintro violation _ ⟨hcheck, records, rfl⟩
  cases violation with
  | some v => exact .of_eq_ok rfl (.refl _ _)
  | none =>
    rw [setRequest]
    dsimp only
    split
    · exact .of_eq_error rfl (.refl _ _)
    · next hnumber =>
      have hset := Store.ends_set { r with world.records := records } (some request.config)
      refine .bind (hset.mono (fun _ _ h => h) fun _ _ h => h.2) ?_
      rintro written r' ⟨_, hadopted, -, hholds⟩
      cases hadopted
      refine .get_bind (.pure ?_)
      rw [tellsWritten_setAnswer]
      cases written with
      | true => exact ⟨hcheck.symm, by simpa using hnumber, hholds⟩
      | false => exact hholds

/-- A command that tells of no writing spares the path. -/
theorem ends_onStore_spares (r : Running) (command : Command) :
    Ends (onStore command) r
      (fun a r' => a.tellsWritten = false → Spares r.store.path r.world.files r'.world.files)
      (fun _ r' => Spares r.store.path r.world.files r'.world.files) := by
  cases command with
  | view reveal => exact .get_bind (.pure fun _ => .refl _ _)
  | concurrency => exact .get_bind (.pure fun _ => .refl _ _)
  | validate request => exact .of_eq_ok rfl fun _ => .refl _ _
  | localOnly reveal =>
    refine .bind (Q := fun _ r' => Spares r.store.path r.world.files r'.world.files)
      (.get_bind (Store.ends_inWorld (.mono (World.ends_drawFrom _ _ r.world) ?_ ?_)))
      fun _ _ h => .pure fun _ => h
    all_goals
      rintro _ _ ⟨-, entropy, rfl⟩
      exact .refl _ _
  | reset =>
    refine .bind ((Store.ends_set r none).mono (fun _ _ h => h) fun _ _ h => h.2) ?_
    rintro written r' ⟨c', -, -, hholds⟩
    refine .get_bind (.pure fun htells => ?_)
    rw [tellsWritten_setAnswer] at htells
    rw [htells] at hholds
    exact hholds
  | set request =>
    refine (ends_onStore_set r request).mono (fun a r' h htells => ?_) fun _ _ h => h
    rw [htells] at h
    exact h

/-! ## Starting -/

/-- A store that starts on a configuration has it and leaves the files, also if it does not come
to run. -/
theorem ends_startStore_of_stored {settings : Settings} {i : Invocation}
    (h : Stored (i.configPath settings) c w.files) :
    Ends (startStore settings i) w
      (fun s w' => s.path = i.configPath settings ∧ s.config = c.canon ∧ w'.files = w.files)
      (fun _ w' => w'.files = w.files) := by
  refine ends_startStore_of_ends (fun _ => rfl) fun o records _ => ?_
  have hstart := @Store.ends_start_of_stored _ c { w with records := w.records ++ records } h o
    (Settings.pathOr settings.concurrencyFile i.concurrencyFile)
  refine hstart.mono ?_ fun _ _ h' => h'.1
  rintro s w' ⟨hpath, hconfig, -, hfiles, -⟩
  exact ⟨hpath, hconfig, hfiles⟩

/-! ## Runs -/

namespace Invoked

/-- The world in which a run starts its store. -/
def started (run : Invoked) (w : World) : World :=
  { run.before w with records := [], backup := { logs := true } }

/-- A run reads its command line as an invocation, which needs a store, and the store comes
to run. -/
structure Starts (run : Invoked) (w : World) (i : Invocation) (s : Store) (w' : World) : Prop where
  reading : Invocation.ofArguments run.arguments = .ok i
  needsStore : ∀ request, i.command ≠ .validate request
  level : ∃ level, Log.Level.resolve i.logLevel (run.env Settings.logLevelName) = .level level
  start : startStore (Settings.ofEnvironment run.env) i (run.started w) = .ok s w'

/-- How a run ends. -/
def ending (run : Invoked) (w : World) : Ending :=
  (CommandLine.run run.env run.arguments (run.before w)).ending

/-- How a run may end and what it leaves. The calls that fail may be others once its store
has started. -/
inductive Gives (run : Invoked) (w : World) : Ending → World → Prop
  | steady : run.Gives w (run.ending w) (run.after w)
  | answered {i : Invocation} {s : Store} {w' : World} {a : Answer} {r : Running} (later : Faults) :
    run.Starts w i s w' → onStore i.command ⟨s, { w' with faults := later }⟩ = .ok a r →
    run.Gives w (.answered a) r.world
  | failed {i : Invocation} {s : Store} {w' : World} {e : Failure} {r : Running} (later : Faults) :
    run.Starts w i s w' → onStore i.command ⟨s, { w' with faults := later }⟩ = .error e r →
    run.Gives w (.failed e) r.world

/-- What a run gives is shown of a run that starts no store, and of a command on the store
that was started. -/
theorem Gives.of_ends {P : Ending → World → Prop} {ending : Ending} (h : run.Gives w ending w')
    (hidle : ∀ ending w', (∀ i s w₁, ¬ run.Starts w i s w₁) → ending.tellsWritten = false →
      w'.files = w.files → P ending w')
    (hstore : ∀ i, Invocation.ofArguments run.arguments = .ok i →
      Ends (startStore (Settings.ofEnvironment run.env) i) (run.started w)
        (fun s w₁ => ∀ later, Ends (onStore i.command) ⟨s, { w₁ with faults := later }⟩
          (fun a r => P (.answered a) r.world) fun e r => P (.failed e) r.world)
        (fun e w₁ => P (.failed e) w₁)) : P ending w' := by
  cases h with
  | answered later hs ha => exact ((hstore _ hs.reading).of_ok hs.start later).of_ok ha
  | failed later hs he => exact ((hstore _ hs.reading).of_ok hs.start later).of_error he
  | steady =>
    rw [Invoked.ending, after, CommandLine.run]
    cases hi : Invocation.ofArguments run.arguments with
    | error stop =>
      refine hidle _ _ (fun i s w₁ hs => ?_) rfl rfl
      cases hi.symm.trans hs.reading
    | ok i =>
      have hends := hstore i hi
      dsimp only
      rw [runInvocation]
      split
      · next value hvalue =>
        refine hidle _ _ (fun j s w₁ hs => ?_) rfl rfl
        cases hi.symm.trans hs.reading
        obtain ⟨level, hlevel⟩ := hs.level
        cases hvalue.symm.trans hlevel
      · have hcarry : Ends (carryOut (Settings.ofEnvironment run.env) i) (run.started w)
            (fun a => P (.answered a)) (fun e => P (.failed e)) := by
          refine ends_carryOut_of_ends (fun request hcommand records => ?_) ?_
          · refine hidle _ _ (fun j s w₁ hs => ?_) rfl rfl
            cases hi.symm.trans hs.reading
            exact hs.needsStore request hcommand
          · exact hends.mono (fun s w₁ h => h w₁.faults) fun _ _ h => h
        dsimp only
        split
        · next hok => exact hcarry.of_ok hok
        · next herror => exact hcarry.of_error herror

/-- A run keeps the configuration at a path. -/
def KeepsAt (run : Invoked) (p : Path) : Prop :=
  ∀ i, Invocation.ofArguments run.arguments = .ok i →
    i.configPath (Settings.ofEnvironment run.env) = p

/-- A configuration on file outlasts a run that tells of no writing. -/
theorem Gives.stored {ending : Ending} (hc : Stored p c w.files) (hp : run.KeepsAt p)
    (h : run.Gives w ending w') (hnot : ending.tellsWritten = false) : Stored p c w'.files := by
  revert hnot
  refine h.of_ends (P := fun ending w' => ending.tellsWritten = false → Stored p c w'.files)
    (fun ending w' _ _ hfiles _ => ?_) fun i hi => ?_
  · rwa [hfiles]
  · obtain rfl := hp i hi
    have hstart := @ends_startStore_of_stored c (run.started w) _ i hc
    refine hstart.mono (fun s w₁ ⟨hpath, _, hfiles⟩ later => ?_) fun e w₁ hfiles _ => ?_
    · have hc₁ : Stored s.path c w₁.files := by rw [hfiles, hpath]; exact hc
      have hcommand := ends_onStore_spares ⟨s, { w₁ with faults := later }⟩ i.command
      rw [← hpath]
      exact hcommand.mono (fun a r h hnot => (h hnot).stored hc₁) fun e r h _ => h.stored hc₁
    · rw [hfiles]
      exact hc

end Invoked

/-- Worlds that runs lead to, none of which tells of a writing. -/
inductive Between (p : Path) : World → World → Prop
  | refl (w : World) : Between p w w
  | run {w w' w'' : World} {ending : Ending} (run : Invoked) : Between p w w' → run.KeepsAt p →
    run.Gives w' ending w'' → ending.tellsWritten = false → Between p w w''

/-- So a configuration on file outlasts any number of runs that tell of no writing, by induction
on them. -/
theorem Between.stored (h : Between p w w') (hc : Stored p c w.files) : Stored p c w'.files := by
  induction h with
  | refl => exact hc
  | run run _ hp hgives hnot ih => exact hgives.stored ih hp hnot

/-- A run without an environment. -/
def Invoked.plain (arguments : List Text) (faults : Faults := Faults.none) : Invoked where
  env := fun _ => none
  arguments := arguments
  faults := faults
  entropy := World.bare.entropy

/-- A `set` that is written. -/
def Invoked.setting : Invoked :=
  plain ("set" :: requestArguments "net" (some "password") "0" "6")

/-- A `set` that is refused: its key is too short. -/
def Invoked.refused : Invoked := plain ["set", "--ssid=net", "--psk=short"]

/-- A `set` that cannot rename its file. -/
def Invoked.failing : Invoked :=
  plain ["set", "--ssid=other", "--open"]
    { refuse := fun call => if call = .rename then some (.refused "no") else none }

end CommandLine
end Hotspot
