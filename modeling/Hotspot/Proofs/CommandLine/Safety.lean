/-
# What the command line lets onto the disk

Three commands write: any that starts a store without a configuration to load,
`reset` and `set`. The first two write defaults, and the last one a configuration
that was checked. So over any sequence of command lines, with any calls made to
fail, only acceptable configurations are written, and what is written is read
back as acceptable.

What is at the path may still change without being written, if the path is not
settled: once the missing directory is made, `a/../b` leads to whatever is at
`b`.
-/

import Hotspot.CommandLine.Run
import Hotspot.Proofs.Config.Acceptable
import Hotspot.Proofs.Store.Writing

namespace Hotspot

open Config (Holds Spares Stored)

variable {α : Type} {p : Path} {fs fs' fs'' : FileSystem} {w w' : World} {o : Overlay}

/-! ## Acceptable writings -/

namespace Config

/-- The configuration that is read at a path, if one is. -/
def at? (p : Path) (fs : FileSystem) : Option Config :=
  match fs.entryAt? p with
  | some (.file bytes _) => (decode bytes).toOption
  | _ => none

/-- Nothing but acceptable configurations was written at a path. -/
def HoldsAcceptable (p : Path) (fs fs' : FileSystem) : Prop :=
  ∃ written, (∀ c, written = some c → c.check = none) ∧ Holds p fs written fs'

namespace HoldsAcceptable

/-- Doing nothing writes nothing. -/
theorem refl (p : Path) (fs : FileSystem) : HoldsAcceptable p fs fs :=
  ⟨none, nofun, Spares.refl p fs⟩

/-- Two actions that write what is acceptable do so one after the other, and the second one
decides what is left. -/
theorem trans (h : HoldsAcceptable p fs fs') (h' : HoldsAcceptable p fs' fs'') :
    HoldsAcceptable p fs fs'' := by
  obtain ⟨written, hcheck, hholds⟩ := h
  obtain ⟨written', hcheck', hholds'⟩ := h'
  refine ⟨written'.or written, fun c hc => ?_, hholds.trans hholds'⟩
  rcases Option.or_eq_some_iff.1 hc with hc | ⟨-, hc⟩
  · exact hcheck' c hc
  · exact hcheck c hc

/-- The entry is the same, or it is read as an acceptable configuration. -/
theorem entry_or_acceptable (h : HoldsAcceptable p fs fs') (hs : fs.Settled p) :
    fs'.entryAt? p = fs.entryAt? p ∨ ∃ c, at? p fs' = some c ∧ c.check = none := by
  obtain ⟨written, hcheck, hholds⟩ := h
  cases written with
  | none => exact .inl (Spares.entryAt? hholds hs)
  | some c =>
    obtain ⟨bytes, hbytes, he⟩ := hholds
    refine .inr ⟨c.canon, ?_, check_canon (hcheck c rfl)⟩
    rw [at?, he]
    dsimp only
    rw [decode_of_encode hbytes]
    rfl

end HoldsAcceptable
end Config

open Config (HoldsAcceptable)

/-- The name template, if it can be shown, leaves room for a number behind it. -/
def Overlay.TemplateFits (o : Overlay) : Prop :=
  ∀ template, o.template? = some template →
    Utf8.size template ≤ 27 ∧ template.hasSurrogate = false

/-- Where there is no overlay the standard one is in force. -/
theorem Overlay.load_of_absent {depth : Nat} (h : fs.exists? p = .ok false) :
    load depth fs p = .ok (ofMembers [], []) := by
  rw [load, h]
  rfl

/-- The standard template is short enough. -/
theorem Overlay.templateFits_ofMembers_nil : (Overlay.ofMembers []).TemplateFits := by
  intro template h
  cases h
  decide

/-! ## Draws -/

namespace World

/-- The random inputs of a world are in range. -/
def InRange (w : World) : Prop := w.entropy.InRange

/-- What is to be drawn has nothing to do with the log. -/
theorem ignoresLog_inRange : IgnoresLog InRange := fun _ _ h => h

/-- A default of a template that fits is acceptable. -/
theorem check_of_drawnFrom? (hw : w.InRange) (ho : o.TemplateFits) {c : Config}
    (h : w.drawnFrom? o.template? Config.generateDefault = some c) : c.check = none := by
  obtain ⟨template, htemplate, h⟩ := Option.bind_eq_some_iff.1 h
  obtain ⟨hsize, hsurrogate⟩ := ho template htemplate
  have hends := Config.ends_generate hw hsize hsurrogate Config.noNetworkId
  rw [drawn?.eq_def] at h
  split at h
  · next hdrawn =>
    cases h
    exact (hends.of_ok hdrawn).1
  · cases h

/-- After drawing one, what is still to be drawn is in range. -/
theorem preserves_drawFrom (ho : o.TemplateFits) :
    Preserves InRange (drawFrom o.template? Config.generateDefault) := by
  intro w hw
  cases htemplate : o.template? with
  | none => exact .throw hw
  | some template =>
    obtain ⟨hsize, hsurrogate⟩ := ho template htemplate
    have hends := Config.ends_generate hw hsize hsurrogate Config.noNetworkId
    rw [Ends, drawFrom, draw]
    cases h : Config.generateDefault template w.entropy with
    | ok c entropy => exact (hends.of_ok h).2
    | error message entropy => exact hends.of_error h

/-- Writing draws nothing. -/
theorem preserves_write (p : Path) (c : Config) : Preserves InRange (write p c) := by
  intro w hw
  rw [Ends, write]
  cases Config.store w.faults p c w.files with
  | ok _ files => exact hw
  | error e files => exact hw

end World

namespace Store

/-- A start writes its default or nothing. -/
theorem ends_start_acceptable (hw : w.InRange) (ho : o.TemplateFits)
    (p template : Path) :
    Ends (start o p template) w
      (fun s w' => s.path = p ∧ s.overlay = o ∧ HoldsAcceptable p w.files w'.files ∧ w'.InRange)
      (fun _ w' => HoldsAcceptable p w.files w'.files) := by
  have hconfig := preserves_startConfig World.ignoresLog_inRange (World.preserves_drawFrom ho)
    fun c _ _ => World.preserves_write p c
  have hstart := preserves_start World.ignoresLog_inRange hconfig template w hw
  refine .mono ((ends_start o p template w).and hstart) ?_ ?_
  · rintro s w' ⟨⟨l, hl, hpath, hoverlay, -, hholds⟩, hw'⟩
    refine ⟨hpath, hoverlay, ⟨l.onFile, fun c hc => ?_, hholds⟩, hw'⟩
    exact World.check_of_drawnFrom? hw ho (Ledger.drawn?_of_onFile hl hc)
  · rintro e w' ⟨⟨written, hdrawn, hholds⟩, -⟩
    exact ⟨written, fun c hc => World.check_of_drawnFrom? hw ho (hdrawn c hc), hholds⟩

/-- Setting a configuration writes it or nothing. -/
theorem ends_set_acceptable {r : Running} {c : Option Config}
    (hc : ∀ c', adopted r c = some c' → c'.check = none) :
    Ends (set c) r
      (fun _ r' => HoldsAcceptable r.store.path r.world.files r'.world.files)
      (fun _ r' => HoldsAcceptable r.store.path r.world.files r'.world.files) := by
  refine .mono (ends_set r c) ?_ ?_
  · rintro written r' ⟨c', hadopted, -, hholds⟩
    refine ⟨if written then some c' else none, fun c'' hc'' => ?_, hholds⟩
    obtain ⟨-, rfl⟩ : written = true ∧ c' = c'' := by simpa using hc''
    exact hc c' hadopted
  · rintro e r' ⟨-, hspares⟩
    exact ⟨none, nofun, hspares⟩

end Store

/-! ## Commands -/

namespace CommandLine

open Store (Running Step)

variable {r : Running}

/-- A request that was checked writes its configuration or nothing. -/
theorem ends_setRequest {request : Request} (hcheck : request.config.check = none) :
    Ends (setRequest request) r
      (fun _ r' => HoldsAcceptable r.store.path r.world.files r'.world.files)
      (fun _ r' => HoldsAcceptable r.store.path r.world.files r'.world.files) := by
  rw [setRequest]
  dsimp only
  split
  · exact .of_eq_error rfl (.refl ..)
  · refine .bind (Store.ends_set_acceptable fun c' hc' => ?_) fun written r' h =>
      .get_bind (.pure h)
    cases hc'
    exact hcheck

/-- A check gives its finding, writes to the log and cannot fail. -/
theorem ends_check (c : Config) :
    Ends (Store.inWorld (Store.check c)) r
      (fun violation r' =>
        violation = c.check ∧ ∃ records, r' = { r with world.records := records })
      (fun _ _ => False) :=
  .of_eq_ok rfl ⟨rfl, _, rfl⟩

/-- A command on a store writes what is acceptable. -/
theorem ends_onStore (hw : r.world.InRange) (ho : r.store.overlay.TemplateFits)
    (command : Command) :
    Ends (onStore command) r
      (fun _ r' => HoldsAcceptable r.store.path r.world.files r'.world.files)
      (fun _ r' => HoldsAcceptable r.store.path r.world.files r'.world.files) := by
  cases command with
  | view reveal => exact .get_bind (.pure (.refl ..))
  | concurrency => exact .get_bind (.pure (.refl ..))
  | validate request => exact .of_eq_ok rfl (.refl ..)
  | localOnly reveal =>
    refine .bind (Q := fun _ r' => HoldsAcceptable r.store.path r.world.files r'.world.files)
      (.get_bind (Store.ends_inWorld (.mono (World.ends_drawFrom _ _ r.world) ?_ ?_)))
      fun _ _ h => .pure h
    all_goals
      rintro _ _ ⟨-, entropy, rfl⟩
      exact .refl ..
  | reset =>
    refine .bind (Store.ends_set_acceptable fun c' hc' => World.check_of_drawnFrom? hw ho hc')
      fun written r' h => .get_bind (.pure h)
  | set request =>
    refine .bind (.mono (ends_check request.config) (fun _ _ h => h) fun _ _ h => h.elim) ?_
    rintro violation _ ⟨hcheck, records, rfl⟩
    cases violation with
    | some v => exact .of_eq_ok rfl (.refl ..)
    | none => exact @ends_setRequest { r with world.records := records } request hcheck.symm

/-! ## Runs -/

/-- Where an invocation keeps the configuration. -/
def Invocation.configPath (settings : Settings) (i : Invocation) : Path :=
  Settings.pathOr settings.configFile i.configFile

/-- Where an invocation looks for the overlay. -/
def Invocation.overlayPath (settings : Settings) (i : Invocation) : Path :=
  Settings.pathOr settings.overlayFile i.overlayFile

/-- A store is started when the overlay is loaded, which changes nothing but the log. -/
theorem ends_startStore_of_ends {settings : Settings} {i : Invocation}
    {Q : Store → World → Prop} {E : Failure → World → Prop} (hE : ∀ e, E e w)
    (h : ∀ o records, Overlay.load w.depth w.files (i.overlayPath settings) = .ok (o, records) →
      Ends (Store.start o (i.configPath settings)
        (Settings.pathOr settings.concurrencyFile i.concurrencyFile))
        { w with records := w.records ++ records } Q E) :
    Ends (startStore settings i) w Q E :=
  .get_bind (World.ends_orFail_bind hE fun ⟨o, records⟩ hload =>
    World.ends_log_bind (h o records hload))

/-- A command is carried out on the store that is started for it; `validate` needs none. -/
theorem ends_carryOut_of_ends {settings : Settings} {i : Invocation} {Q : Answer → World → Prop}
    {E : Failure → World → Prop}
    (hvalidate : ∀ request, i.command = .validate request → ∀ records,
      Q (checkAnswer request.config.check) { w with records })
    (hstore : Ends (startStore settings i) w
      (fun s w' => Ends (onStore i.command) ⟨s, w'⟩ (fun a r => Q a r.world)
        fun e r => E e r.world) E) :
    Ends (carryOut settings i) w Q E := by
  rw [carryOut.eq_def]
  split
  · next request hcommand => exact .of_eq_ok rfl (hvalidate request hcommand _)
  · refine .bind hstore fun s w' h => ?_
    unfold Ends
    dsimp only
    cases hc : onStore i.command ⟨s, w'⟩ with
    | ok a r => exact h.of_ok hc
    | error e r => exact h.of_error hc

/-- A store that is started for an invocation writes what is acceptable, and has the overlay
that was loaded. -/
theorem ends_startStore (hw : w.InRange) {settings : Settings} {i : Invocation}
    (ho : ∀ o records, Overlay.load w.depth w.files (i.overlayPath settings) = .ok (o, records) →
      o.TemplateFits) :
    Ends (startStore settings i) w
      (fun s w' => s.path = i.configPath settings ∧ s.overlay.TemplateFits ∧
        HoldsAcceptable (i.configPath settings) w.files w'.files ∧ w'.InRange)
      (fun _ w' => HoldsAcceptable (i.configPath settings) w.files w'.files) := by
  refine ends_startStore_of_ends (fun _ => .refl ..) fun o records hload => ?_
  have hfits := ho o records hload
  have hstart := @Store.ends_start_acceptable { w with records := w.records ++ records } _ hw
    hfits (i.configPath settings) (Settings.pathOr settings.concurrencyFile i.concurrencyFile)
  refine hstart.mono ?_ fun _ _ h => h
  rintro s w' ⟨hpath, hoverlay, hholds, hw'⟩
  exact ⟨hpath, hoverlay ▸ hfits, hholds, hw'⟩

/-- A store is started, and a command carried out on it, whichever calls fail by then. -/
theorem ends_startStore_onStore (hw : w.InRange) {settings : Settings} {i : Invocation}
    (ho : ∀ o records, Overlay.load w.depth w.files (i.overlayPath settings) = .ok (o, records) →
      o.TemplateFits) :
    Ends (startStore settings i) w
      (fun s w₁ => ∀ later, Ends (onStore i.command) ⟨s, { w₁ with faults := later }⟩
        (fun _ r => HoldsAcceptable (i.configPath settings) w.files r.world.files)
        (fun _ r => HoldsAcceptable (i.configPath settings) w.files r.world.files))
      (fun _ w' => HoldsAcceptable (i.configPath settings) w.files w'.files) := by
  refine (ends_startStore hw ho).mono
    (fun s w₁ ⟨hpath, hfits, hholds, hw₁⟩ later => ?_) fun _ _ h => h
  have hcommand :=
    @ends_onStore ⟨s, { w₁ with faults := later }⟩ hw₁ hfits i.command
  rw [hpath] at hcommand
  exact hcommand.mono (fun _ _ h => hholds.trans h) fun _ _ h => hholds.trans h

/-- So a whole command line writes what is acceptable, also if it fails. -/
theorem ends_carryOut (hw : w.InRange) {settings : Settings} {i : Invocation}
    (ho : ∀ o records, Overlay.load w.depth w.files (i.overlayPath settings) = .ok (o, records) →
      o.TemplateFits) :
    Ends (carryOut settings i) w
      (fun _ w' => HoldsAcceptable (i.configPath settings) w.files w'.files)
      (fun _ w' => HoldsAcceptable (i.configPath settings) w.files w'.files) :=
  ends_carryOut_of_ends (fun _ _ _ => .refl ..)
    ((ends_startStore_onStore hw ho).mono (fun _ w₁ h => h w₁.faults) fun _ _ h => h)

/-- A run of the program, with what stands in its way and what is drawn. -/
structure Invoked where
  env : Environment
  arguments : List Text
  faults : Faults
  /-- How many values of the overlay may be inside each other. -/
  depth : Nat := Json.depthLimit
  entropy : Entropy

namespace Invoked

/-- The world that a run finds. -/
def before (run : Invoked) (w : World) : World :=
  { w with faults := run.faults, depth := run.depth, entropy := run.entropy }

/-- The world that a run leaves. -/
def after (run : Invoked) (w : World) : World :=
  (CommandLine.run run.env run.arguments (run.before w)).world

/-- A run keeps the configuration at a path, under an overlay whose name template fits,
and draws numbers in range. -/
structure Suits (run : Invoked) (p : Path) (w : World) : Prop where
  path : ∀ i, Invocation.ofArguments run.arguments = .ok i →
    i.configPath (Settings.ofEnvironment run.env) = p
  overlay : ∀ i, Invocation.ofArguments run.arguments = .ok i → ∀ o records,
    Overlay.load run.depth w.files (i.overlayPath (Settings.ofEnvironment run.env)) =
      .ok (o, records) → o.TemplateFits
  inRange : run.entropy.InRange

/-- A run writes what is acceptable, however it ends. -/
theorem holdsAcceptable_after {run : Invoked} (h : run.Suits p w) :
    HoldsAcceptable p w.files (run.after w).files := by
  rw [after, CommandLine.run]
  cases hi : Invocation.ofArguments run.arguments with
  | error stop => exact .refl ..
  | ok i =>
    dsimp only
    rw [runInvocation]
    split
    · exact .refl ..
    · have hcarry := @ends_carryOut
        { run.before w with records := [], backup := { logs := true } } h.inRange
        (Settings.ofEnvironment run.env) i (h.overlay i hi)
      rw [h.path i hi] at hcarry
      dsimp only
      split
      · next hok => exact hcarry.of_ok hok
      · next herror => exact hcarry.of_error herror

/-- So does one that finds other calls failing when its store has started. -/
theorem holdsAcceptable_onStore {run : Invoked} (h : run.Suits p w)
    {i : Invocation} (hi : Invocation.ofArguments run.arguments = .ok i) {s : Store}
    (hs : startStore (Settings.ofEnvironment run.env) i (run.before w) = .ok s w')
    (later : Faults) :
    HoldsAcceptable p w.files
      (Running.after ⟨s, { w' with faults := later }⟩ (onStore i.command)).world.files := by
  have hstore := @ends_startStore_onStore (run.before w) h.inRange
    (Settings.ofEnvironment run.env) i (h.overlay i hi)
  rw [h.path i hi] at hstore
  exact Store.after_of_ends (hstore.of_ok hs later)

end Invoked

/-- Worlds that runs lead to, one after the other. The calls that fail may be others at
the start of a store and after it. -/
inductive Reaches (p : Path) : World → World → Prop
  | refl (w : World) : Reaches p w w
  | run {w w' : World} (run : Invoked) : Reaches p w w' → run.Suits p w' →
    Reaches p w (run.after w')
  | changing {w w' w₁ : World} {i : Invocation} {s : Store} (run : Invoked) (later : Faults) :
    Reaches p w w' → run.Suits p w' → Invocation.ofArguments run.arguments = .ok i →
    startStore (Settings.ofEnvironment run.env) i (run.before w') = .ok s w₁ →
    Reaches p w (Running.after ⟨s, { w₁ with faults := later }⟩ (onStore i.command)).world

/-- So does any number of them, by induction. -/
theorem Reaches.holdsAcceptable (h : Reaches p w w') : HoldsAcceptable p w.files w'.files := by
  induction h with
  | refl => exact .refl ..
  | run run _ hsuits ih => exact ih.trans (Invoked.holdsAcceptable_after hsuits)
  | changing run later _ hsuits hi hs ih =>
    exact ih.trans (Invoked.holdsAcceptable_onStore hsuits hi hs later)

/-- **No unacceptable configuration reaches the disk.** If there is none to be read at a
settled path at first, then after every run of the program what is found there is the
entry from before, of which nothing is read, or is read as an acceptable configuration.
A path is settled if each `..` in it stands behind directories that are there. -/
theorem safety (hs : w.files.Settled p)
    (hw : ∀ c, Config.at? p w.files = some c → c.check = none) (h : Reaches p w w') :
    (Config.at? p w.files = none ∧ w'.files.entryAt? p = w.files.entryAt? p) ∨
      ∃ c, Config.at? p w'.files = some c ∧ c.check = none := by
  rcases h.holdsAcceptable.entry_or_acceptable hs with hsame | hacceptable
  · match hread : Config.at? p w.files with
    | none => exact .inl ⟨rfl, hsame⟩
    | some c =>
      refine .inr ⟨c, ?_, hw c hread⟩
      rw [Config.at?, hsame, ← Config.at?, hread]
  · exact .inr hacceptable

/-- A run of a command, with the configuration at a path. -/
def Invoked.keeping (configFile : Text) (arguments : List Text)
    (faults : Faults := Faults.none) : Invoked where
  env := fun name => if name = Settings.configFileName then some configFile else none
  arguments := arguments
  faults := faults
  entropy := World.bare.entropy

/-- Where no overlay is, such a run is under the standard one. -/
theorem Invoked.suits_keeping {configFile : Text} {arguments : List Text} {faults : Faults}
    {command : Command}
    (hread : Invocation.ofArguments arguments = .ok { command })
    (hpath : Path.ofText configFile.trim = Path.ofText configFile) (hname : configFile.trim ≠ [])
    (hnone : w.files.exists? ({} : Settings).overlayFile = .ok false) :
    (keeping configFile arguments faults).Suits (Path.ofText configFile) w := by
  refine ⟨fun i hi => ?_, fun i hi o records ho => ?_, fun n i hi => ?_⟩
  · cases hread.symm.trans hi
    show Settings.pathOr _ (some configFile.trim) = _
    rw [← hpath]
    cases htrim : configFile.trim with
    | nil => exact absurd htrim hname
    | cons c rest => rfl
  · cases hread.symm.trans hi
    cases (Overlay.load_of_absent hnone).symm.trans ho
    exact Overlay.templateFits_ofMembers_nil
  · cases hi
    decide

/-- A name and a key are set over an old configuration. A second key is refused, since it is
too short, and a `reset` cannot rename its file: what was set is still read, and acceptable. -/
theorem safety_of_failing_reset :
    let p := Path.ofText "softap.conf"
    let renameFails : Faults :=
      { refuse := fun call => if call = .rename then some (.refused "no") else none }
    let setting := Invoked.keeping "softap.conf" ["set", "--ssid=net", "--psk=password"]
    let refused := Invoked.keeping "softap.conf" ["set", "--ssid=net", "--psk=short"]
    let failing := Invoked.keeping "softap.conf" ["reset"] renameFails
    let left := failing.after (refused.after (setting.after World.holdingOld))
    let request : Request := { ssid := "net", key := some "password" }
    Config.at? p World.holdingOld.files = some { ssid := some "old" } ∧
      Reaches p World.holdingOld left ∧
      Config.at? p left.files = some request.config ∧ request.config.check = none := by
  intro p renameFails setting refused failing left request
  have hs : World.holdingOld.files.Settled p := FileSystem.settled_of_not_mem (by decide)
  have hold : Config.at? p World.holdingOld.files = some { ssid := some "old" } := by
    decide +kernel
  have hleft : Config.at? p left.files = some request.config := by decide +kernel
  have hpath : Path.ofText (Text.trim "softap.conf") = Path.ofText "softap.conf" := by decide
  have hname : Text.trim "softap.conf" ≠ [] := by decide
  have hset : Invocation.ofArguments setting.arguments = .ok { command := .set request } := by
    decide +kernel
  have hrefused : Invocation.ofArguments refused.arguments =
      .ok { command := .set { ssid := "net", key := some "short" } } := by decide +kernel
  have hreset : Invocation.ofArguments failing.arguments = .ok { command := .reset } := by
    decide +kernel
  have hchain : Reaches p World.holdingOld left :=
    .run failing (.run refused (.run setting (.refl _)
      (Invoked.suits_keeping hset hpath hname (by decide +kernel)))
      (Invoked.suits_keeping hrefused hpath hname (by decide +kernel)))
      (Invoked.suits_keeping hreset hpath hname (by decide +kernel))
  have hacceptable : ∀ c, Config.at? p World.holdingOld.files = some c → c.check = none := by
    intro c hc
    cases hold.symm.trans hc
    decide
  -- an old configuration was read, so the entry is of the second kind
  rcases safety hs hacceptable hchain with ⟨hnone, -⟩ | ⟨c, hc, hcheck⟩
  · cases hold.symm.trans hnone
  · cases hleft.symm.trans hc
    exact ⟨hold, hchain, hleft, hcheck⟩

/-- A configuration without a name, which is not acceptable, is at `b`, and no file can
be made at `b.tmp`. -/
def nameless : World where
  files :=
    { workingDirectory := .root
      entries := [
        (.ofNames [Path.bytes "b"],
          .file [0, 0, 0, 2, 0, 0, 0, 0, 0, 0, 0, 0, 0, 0, 0, 0, 0, 0] 0o644),
        (.ofNames [Path.bytes "b.tmp"], .directory)] }
  entropy := World.bare.entropy

/-- Where a directory is missing before a `..`, a run may uncover what is not acceptable:
no configuration is read at `a/../b`, the run makes the directory `a`, and it fails to
write. -/
theorem unacceptable_of_unsettled_path :
    ¬ ∀ (p : Path) (w w' : World),
      (∀ c, Config.at? p w.files = some c → c.check = none) → Reaches p w w' →
      (Config.at? p w.files = none ∧ w'.files.entryAt? p = w.files.entryAt? p) ∨
        ∃ c, Config.at? p w'.files = some c ∧ c.check = none := by
  intro h
  have hbefore : Config.at? (Path.ofText "a/../b") nameless.files = none := by decide
  have hafter : Config.at? (Path.ofText "a/../b")
      ((Invoked.keeping "a/../b" ["show"]).after nameless).files = some { ssid := some [] } := by
    decide +kernel
  have hread : Invocation.ofArguments ["show"] = .ok { command := .view false } := rfl
  have hsuits : (Invoked.keeping "a/../b" ["show"]).Suits (Path.ofText "a/../b") nameless :=
    Invoked.suits_keeping hread (by decide) (by decide) (by decide)
  rcases h _ _ _ (fun c hc => by cases hbefore.symm.trans hc)
    (.run _ (.refl _) hsuits) with ⟨-, hsame⟩ | ⟨c, hc, hcheck⟩
  · rw [Config.at?, hsame, ← Config.at?, hbefore] at hafter
    cases hafter
  · cases hafter.symm.trans hc
    cases hcheck

end CommandLine
end Hotspot
