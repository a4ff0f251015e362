/-
# Setting and checking agree

A command line that is to set a configuration and one that is to check it, with the same
arguments, end with the same exit code, although one starts a store first and the other
needs none:

| the configuration | `validate` | `set` | files after `set` |
| --- | --- | --- | --- |
| is rejected | 2, the rule | 2, the rule | as `show` leaves them |
| is acceptable | 0 | 0, whether it is written | hold it if it is written |

An acceptable configuration that cannot be attempted to be written ends `set` with a
failure (`Stuck`). A number may be wanting, because the separator was given for it; or
the store came to run over a path at which nothing can be written, which it does where its
own default has no bytes.
-/

import Hotspot.Proofs.CommandLine.Persistence
import Hotspot.Proofs.CommandLine.Reading
import Hotspot.Proofs.Store.Origins

namespace Hotspot

open Config (Completes HasRoom ReadsAs Stored)

namespace CommandLine

open Store (Opened Running Saved Unsaved)

variable {p : Path} {fs : FileSystem} {w w₁ : World} {r : Running} {request : Request}
  {run : Invoked} {i : Invocation} {s : Store} {e e' : Failure} {faults : Faults}

/-! ## Endings -/

/-- The exit code of what failed. -/
def exitFailed : Nat := 1

/-- The exit code of a run. -/
def Ending.code : Ending → Nat
  | .stopped (.help _) => exitDone
  | .stopped (.misuse ..) => exitInvalid
  | .failed _ => exitFailed
  | .answered a => a.code

/-- The rule that an answer names as broken. -/
def Answer.error? (a : Answer) : Option Text :=
  match a.json with
  | .object members =>
    match Json.Members.get? members "error" with
    | some (.text rule) => some rule
    | _ => none
  | _ => none

/-- The rule that a run names as broken. -/
def Ending.error? : Ending → Option Text
  | .answered a => a.error?
  | _ => none

/-- How a command ends on a store that was started, and the world that it leaves. -/
def finish (command : Command) (s : Store) (w : World) : Ending × World :=
  match onStore command ⟨s, w⟩ with
  | .ok a r => (.answered a, r.world)
  | .error e r => (.failed e, r.world)

/-- A command that needs a store ends as it does on the store that was started for it. -/
theorem ends_carryOut_finish {settings : Settings}
    (hneeds : ∀ request, i.command ≠ .validate request)
    (hstart : startStore settings i w = .ok s w₁) :
    Ends (carryOut settings i) w
      (fun a w' => (Ending.answered a, w') = finish i.command s w₁)
      (fun e w' => (Ending.failed e, w') = finish i.command s w₁) := by
  refine ends_carryOut_of_ends (fun request hcommand => absurd hcommand (hneeds request)) ?_
  rw [Ends, hstart]
  refine Ends.result.mono (fun a r h => ?_) fun e r h => ?_
  · rw [finish, h]
  · rw [finish, h]

namespace Invoked

/-- A run with other arguments. -/
def on (run : Invoked) (arguments : List Text) : Invoked := { run with arguments }

/-- A run whose store starts ends as its command does on the store. -/
theorem Starts.finish_eq (h : run.Starts w i s w₁) :
    (run.ending w, run.after w) = finish i.command s w₁ := by
  obtain ⟨level, hlevel⟩ := h.level
  have hrun : CommandLine.run run.env run.arguments (run.before w) =
      runInvocation run.env i (run.before w) := by
    rw [CommandLine.run, h.reading]
  have hends := ends_carryOut_finish h.needsStore h.start
  rw [ending, after, hrun, runInvocation, hlevel]
  dsimp only
  cases hcarry : carryOut (Settings.ofEnvironment run.env) i (run.started w) with
  | ok a w' =>
    rw [started] at hcarry
    rw [hcarry]
    exact hends.of_ok hcarry
  | error e w' =>
    rw [started] at hcarry
    rw [hcarry]
    exact hends.of_error hcarry

/-- A run that checks a request leaves the files. -/
theorem files_after_validate (hi : Invocation.ofArguments run.arguments = .ok i)
    (hcommand : i.command = .validate request) (w : World) : (run.after w).files = w.files := by
  rw [after, CommandLine.run, hi]
  dsimp only
  rw [runInvocation]
  split
  · rfl
  · rw [carryOut.eq_def, hcommand]
    rfl

/-- A run that checks a request tells what a check finds. -/
theorem ending_of_validate (hi : Invocation.ofArguments run.arguments = .ok i)
    (hcommand : i.command = .validate request) {level : Log.Level}
    (hlevel : Log.Level.resolve i.logLevel (run.env Settings.logLevelName) = .level level)
    (w : World) : run.ending w = .answered (checkAnswer request.config.check) := by
  rw [ending, CommandLine.run, hi]
  dsimp only
  rw [runInvocation, hlevel]
  dsimp only
  rw [carryOut.eq_def, hcommand]
  rfl

end Invoked

/-! ## Setting an acceptable request -/

/-- An acceptable request cannot be attempted to be written, and how setting it fails: a
number is wanting, the path ends in no name, or there is no room for the directories that
are missing above it. -/
inductive Stuck (request : Request) (p : Path) (faults : Faults) (fs : FileSystem) : Failure → Prop
  | number : request.config.check = none → request.lacksNumber = true →
    Stuck request p faults fs .noNumber
  | unnamed {bytes : Bytes} : request.config.check = none → request.lacksNumber = false →
    request.config.encode = .ok bytes → p.name? = none → Stuck request p faults fs (.unnamed p)
  | room {bytes : Bytes} : request.config.check = none → request.lacksNumber = false →
    request.config.encode = .ok bytes → p.name?.isSome = true → ¬ HasRoom faults p fs →
    Stuck request p faults fs .tooDeep

/-- There is one reason at most: each of them rules out the ones before it. -/
theorem Stuck.unique (h : Stuck request p faults fs e)
    (h' : Stuck request p faults fs e') : e = e' := by
  cases h with
  | number _ hnumber =>
    cases h' with
    | number => rfl
    | unnamed _ hnumber' => cases hnumber.symm.trans hnumber'
    | room _ hnumber' => cases hnumber.symm.trans hnumber'
  | unnamed _ hnumber _ hname =>
    cases h' with
    | number _ hnumber' => cases hnumber.symm.trans hnumber'
    | unnamed => rfl
    | room _ _ _ hname' =>
      rw [hname] at hname'
      cases hname'
  | room _ hnumber _ hname =>
    cases h' with
    | number _ hnumber' => cases hnumber.symm.trans hnumber'
    | unnamed _ _ _ hname' =>
      rw [hname'] at hname
      cases hname
    | room => rfl

/-- Only an acceptable configuration gets so far that it can be stuck. -/
theorem Stuck.check (h : Stuck request p faults fs e) : request.config.check = none := by
  cases h <;> assumption

/-- Where saving fails for an acceptable request it cannot be attempted. -/
theorem stuck_of_unsaved (hfault : p.nameFault? = none)
    (hcheck : request.config.check = none) (hnumber : request.lacksNumber = false)
    (hwritable : request.IsWritable) (h : Unsaved p request.config w e) :
    Stuck request p w.faults w.files e := by
  obtain ⟨refusal, files, hstore, hreport⟩ := h
  cases hbytes : request.config.encode with
  | error refusal' =>
    cases hstore.symm.trans (Config.store_of_encode_error hbytes)
    obtain ⟨text, htext⟩ := Config.exists_report_of_encode hwritable.1 hwritable.2 hbytes
    cases hreport.symm.trans htext
  | ok bytes =>
    have hmisses := (Config.ends_store_of_bytes hfault hbytes w.faults w.files).of_error hstore
    cases hmisses with
    | unnamed hname =>
      cases hreport
      exact .unnamed hcheck hnumber hbytes hname
    | room hname hroom =>
      cases hreport
      exact .room hcheck hnumber hbytes hname hroom
    | call io _ _ => cases hreport

/-- What cannot be attempted is not saved. -/
theorem not_stuck_of_saved {written : Bool} {w' : World} (hfault : p.nameFault? = none)
    (hnumber : request.lacksNumber = false) (h : Saved p request.config w written w') :
    ¬ Stuck request p w.faults w.files e := by
  intro hstuck
  -- what is left where the configuration has bytes
  have hroom (bytes : Bytes) (hbytes : request.config.encode = .ok bytes) :
      p.name?.isSome = true ∧ HasRoom w.faults p w.files := by
    have hends := Config.ends_store_of_bytes hfault hbytes w.faults w.files
    cases h with
    | written hcompletes => exact hends.of_ok (Config.store_eq_ok_iff.2 hcompletes)
    | refused hstore hreport =>
      cases hends.of_error hstore with
      | unnamed _ => cases hreport
      | room _ _ => cases hreport
      | call io hname hroom => exact ⟨hname, hroom⟩
  cases hstuck with
  | number _ hnumber' => cases hnumber.symm.trans hnumber'
  | unnamed _ _ hbytes hname =>
    have hsome := (hroom _ hbytes).1
    rw [hname] at hsome
    cases hsome
  | room _ _ hbytes _ hnot => exact hnot (hroom _ hbytes).2

/-- What setting a request answers. -/
theorem ends_onStore_set_agreement (hfault : r.store.path.nameFault? = none)
    (hwritable : request.IsWritable) :
    Ends (onStore (.set request)) r
      (fun a r' => (∃ v, request.config.check = some v ∧ a = rejectedAnswer v ∧
          r'.world.files = r.world.files) ∨
        request.config.check = none ∧ a.code = exitDone ∧
          (∀ e, ¬ Stuck request r.store.path r.world.faults r.world.files e) ∧
          (a.tellsWritten = true ↔ Completes r.world.faults r.store.path request.config
            r.world.files r'.world.files))
      fun e _ => Stuck request r.store.path r.world.faults r.world.files e := by
  refine .bind (.mono (ends_check request.config) (fun _ _ h => h) fun _ _ h => h.elim) ?_
  rintro violation _ ⟨hcheck, records, rfl⟩
  cases violation with
  | some v => exact .of_eq_ok rfl (.inl ⟨v, hcheck.symm, rfl, rfl⟩)
  | none =>
    rw [setRequest]
    dsimp only
    split
    · next hnumber => exact .of_eq_error rfl (.number hcheck.symm hnumber)
    · next hnumber =>
      have hnumber := eq_false_of_ne_true hnumber
      have hset := Store.ends_set_saved { r with world.records := records } request.config
      refine .bind (hset.mono (fun _ _ h => h) fun e _ h => ?_) ?_
      · exact stuck_of_unsaved hfault hcheck.symm hnumber hwritable h
      · rintro written r' ⟨-, w', hsaved, hfiles⟩
        refine .get_bind (.pure (.inr ⟨hcheck.symm, rfl, fun e => ?_, ?_⟩))
        · have hnot := not_stuck_of_saved (e := e) hfault hnumber hsaved
          exact hnot
        · rw [tellsWritten_setAnswer, hfiles]
          exact hsaved.eq_true_iff

/-! ## Agreement -/

/-- A store is started by opening the configuration at its path, under some overlay. -/
theorem ends_startStore_opened (settings : Settings) (i : Invocation) (w : World) :
    Ends (startStore settings i) w
      (fun s w' => s.path = i.configPath settings ∧ ∃ o records,
        Opened o (i.configPath settings) { w with records } (s.config, s.origin) w')
      fun _ _ => True := by
  refine ends_startStore_of_ends (fun _ => trivial) fun o records _ => ?_
  have hopened := Store.ends_start_opened { w with records := w.records ++ records } o
    (i.configPath settings) (Settings.pathOr settings.concurrencyFile i.concurrencyFile)
  have hpath := Store.ends_start_path o (i.configPath settings)
    (Settings.pathOr settings.concurrencyFile i.concurrencyFile)
    { w with records := w.records ++ records }
  exact (hpath.and hopened).mono (fun s w' h => ⟨h.1, o, _, h.2⟩) fun _ _ _ => trivial

/-- What `set` comes to on a store beside `validate` with the same request: how the one has
ended, what it has left, and how the other one has ended. -/
structure Agrees (request : Request) (p : Path) (fs : FileSystem) (faults : Faults)
    (ended : Ending) (left : FileSystem) (checked : Ending) : Prop where
  code : (¬ ∃ e, Stuck request p faults fs e) → ended.code = checked.code
  invalid : ended.code = 2 ↔ ∃ v, request.config.check = some v
  rejected : ∀ v, request.config.check = some v →
    ended.error? = some v.rule.name ∧ checked.error? = some v.rule.name ∧ left = fs
  written : ended.code = 0 →
    (ended.tellsWritten = true ↔ Completes faults p request.config fs left)
  stored : ended.tellsWritten = true → Stored p request.config left
  stuck : ∀ e, Stuck request p faults fs e → checked.code = 0 ∧ ended = .failed e

section Agrees

variable {left : FileSystem}

/-- A request that is stuck fails where the check passes, which is the one disagreement there
is. -/
theorem Agrees.of_stuck (h : Stuck request p faults fs e) :
    Agrees request p fs faults (.failed e) left
      (.answered (checkAnswer request.config.check)) := by
  have hcheck := h.check
  have hfailed : (Ending.failed e).code ≠ 2 := Nat.ne_of_lt (Nat.lt_succ_self 1)
  rw [hcheck]
  constructor
  case code => exact fun hnot => absurd ⟨e, h⟩ hnot
  case invalid => simp [hcheck, hfailed]
  case rejected => simp [hcheck]
  case written => simp [Ending.code, exitFailed]
  case stored => simp [Ending.tellsWritten]
  case stuck => exact fun e' h' => ⟨rfl, by rw [h.unique h']⟩

/-- A request that is rejected is rejected by both, and touches nothing. -/
theorem Agrees.of_rejected {v : Config.Violation} (hv : request.config.check = some v) :
    Agrees request p fs faults (.answered (rejectedAnswer v)) fs
      (.answered (checkAnswer request.config.check)) := by
  rw [hv]
  constructor
  case code => exact fun _ => rfl
  case invalid => exact iff_of_true rfl ⟨v, hv⟩
  case rejected =>
    intro v' hv'
    cases hv.symm.trans hv'
    exact ⟨rfl, rfl, rfl⟩
  case written => exact fun h => by cases h
  case stored => exact fun h => by cases h
  case stuck => exact fun e h => by cases hv.symm.trans h.check

/-- A request that is neither ends with 0 on both sides, and tells whether it was written. -/
theorem Agrees.of_done {a : Answer} (hcheck : request.config.check = none)
    (hcode : a.code = exitDone) (hnot : ∀ e, ¬ Stuck request p faults fs e)
    (hwritten : a.tellsWritten = true ↔ Completes faults p request.config fs left) :
    Agrees request p fs faults (.answered a) left
      (.answered (checkAnswer request.config.check)) := by
  have hdone : (Ending.answered a).code = 0 := hcode
  rw [hcheck]
  constructor
  case code => exact fun _ => hcode
  case invalid => simp [hcheck, hdone]
  case rejected => simp [hcheck]
  case written => exact fun _ => hwritten
  case stored =>
    intro htells
    have hstore := Config.ends_store faults p request.config fs
    exact hstore.of_ok (Config.store_eq_ok_iff.2 (hwritten.1 htells))
  case stuck => exact fun e h => absurd h (hnot e)

end Agrees

/-- One of the three applies to every request. -/
theorem agrees_finish (hpath : s.path = p) (hfault : p.nameFault? = none)
    (hwritable : request.IsWritable) :
    let ended := finish (.set request) s { w with faults }
    Agrees request p w.files faults ended.1 ended.2.files
      (.answered (checkAnswer request.config.check)) := by
  subst hpath
  have hends := @ends_onStore_set_agreement ⟨s, { w with faults }⟩ request hfault hwritable
  rw [finish]
  cases hset : onStore (.set request) ⟨s, { w with faults }⟩ with
  | error e r => exact .of_stuck (hends.of_error hset)
  | ok a r =>
    rcases hends.of_ok hset with ⟨v, hv, rfl, hfiles⟩ | ⟨hcheck, hcode, hnot, hwritten⟩
    · dsimp only
      rw [hfiles]
      exact .of_rejected hv
    · exact .of_done hcheck hcode hnot hwritten

/-- The check ends with 2 or 0, by whether there is a violation. -/
theorem code_checkAnswer (violation : Option Config.Violation) :
    ((Ending.answered (checkAnswer violation)).code = 2 ↔ ∃ v, violation = some v) ∧
    ((Ending.answered (checkAnswer violation)).code = 0 ↔ violation = none) := by
  cases violation with
  | none => exact ⟨iff_of_false (fun h => by cases h) (by simp), iff_of_true rfl rfl⟩
  | some v => exact ⟨iff_of_true rfl ⟨v, rfl⟩, iff_of_false (fun h => by cases h) (by simp)⟩

/-- **Setting and checking agree**, and a `set` that is rejected writes nothing of its own.

Let a command line that is to set a configuration be read, with any switches before the word
of the command, and let its store come to run. Take the same command line with `validate` for
`set`, and the one with `show` for all from there on. Then `validate` leaves the files in any
world. `show` leaves them as the start of the store does: as they were, if the file is read as
a configuration. And with any calls failing when the store has started (`Agrees`):

* the exit codes of `set` and `validate` are the same, unless an acceptable configuration
  cannot be attempted to be written. Then `validate` ends with 0, and `set` fails;
* they are 2 just if a check rejects the configuration. Then both name the broken rule, and
  `set` leaves the files as `show` does;
* if `set` ends with 0, it tells of a writing just if the encoding and each call but the sync
  succeeded. If it does, the configuration is on file for its owner alone. -/
theorem agreement {given : List (Switch × Value)} {before rest : List Text}
    (hbefore : programForm.reading before = .ok { given })
    (hstarts : (run.on (before ++ Verb.set.name :: rest)).Starts w i s w₁) :
    ∃ request, i.command = .set request ∧
      let p := i.configPath (Settings.ofEnvironment run.env)
      let setting := run.on (before ++ Verb.set.name :: rest)
      let checking := run.on (before ++ Verb.validate.name :: rest)
      let viewing := run.on (before ++ [Verb.view.name])
      (∀ u, (checking.after u).files = u.files) ∧
      (viewing.after w).files = w₁.files ∧
      ((∃ c, ReadsAs p w.files c) → w₁.files = w.files) ∧
      ((checking.ending w).code = 2 ↔ ∃ v, request.config.check = some v) ∧
      ((checking.ending w).code = 0 ↔ request.config.check = none) ∧
      (setting.ending w, setting.after w) = finish (.set request) s w₁ ∧
      ∀ later, let ended := finish (.set request) s { w₁ with faults := later }
        Agrees request p w₁.files later ended.1 ended.2.files (checking.ending w) := by
  obtain ⟨request, rfl, hwritable, hvalidate, hview⟩ :=
    ofArguments_of_set hbefore hstarts.reading
  obtain ⟨level, hlevel⟩ := hstarts.level
  refine ⟨request, rfl, ?_⟩
  intro p setting checking viewing
  have hchecked : checking.ending w = .answered (checkAnswer request.config.check) :=
    @Invoked.ending_of_validate request checking _ hvalidate rfl level hlevel w
  have hviewing : viewing.Starts w (.behind given (.view false)) s w₁ :=
    ⟨hview, (fun _ h => by cases h), ⟨level, hlevel⟩, hstarts.start⟩
  have hshown : (viewing.ending w, viewing.after w) = finish (.view false) s w₁ :=
    hviewing.finish_eq
  obtain ⟨hpath, o, records, hopened⟩ := (ends_startStore_opened _ _ _).of_ok hstarts.start
  refine ⟨@Invoked.files_after_validate request checking _ hvalidate rfl, ?_, ?_, ?_, ?_,
    hstarts.finish_eq, fun later => ?_⟩
  · exact congrArg (fun ended => ended.2.files) hshown
  · rintro ⟨c, hc⟩
    rcases Store.loaded_or_fresh_of_opened hopened with ⟨-, -, hfiles, -⟩ | ⟨-, hnone⟩
    · exact hfiles
    · exact absurd hc (hnone c)
  · rw [hchecked]
    exact (code_checkAnswer _).1
  · rw [hchecked]
    exact (code_checkAnswer _).2
  · rw [hchecked]
    have hfault := Store.nameFault?_of_opened hopened
    exact @agrees_finish p w₁ request s later hpath hfault hwritable

/-- A network with a key, kept in a file of the working directory: it can be checked and it is
set. -/
theorem agreement_of_protected :
    let before : List Text := ["--config-file=softap.conf"]
    let rest : List Text := ["--ssid=net", "--psk=password"]
    let request : Request := { ssid := "net", key := some "password" }
    let run := Invoked.plain []
    programForm.reading before = .ok { given := [(Switch.configFile, .text "softap.conf")] } ∧
    ∃ i s w₁, (run.on (before ++ Verb.set.name :: rest)).Starts World.bare i s w₁ ∧
      ((run.on (before ++ Verb.validate.name :: rest)).ending World.bare).code = 0 ∧
      ((run.on (before ++ [Verb.view.name])).after World.bare).files = w₁.files ∧
      Stored (Path.ofText "softap.conf") request.config
        ((run.on (before ++ Verb.set.name :: rest)).after World.bare).files := by
  intro before rest request run
  have hbefore : programForm.reading before =
      .ok { given := [(Switch.configFile, .text "softap.conf")] } := by decide +kernel
  have hset : Invocation.ofArguments (before ++ Verb.set.name :: rest) =
      .ok { configFile := some "softap.conf", command := .set request } := by decide +kernel
  have hstart : Ends (startStore (Settings.ofEnvironment fun _ => none)
      { configFile := some "softap.conf", command := .set request })
      (run.started World.bare) (fun _ _ => True) (fun _ _ => False) := by decide +kernel
  obtain ⟨s, w₁, hs, -⟩ := hstart.exists_ok
  have hstarts : (run.on (before ++ Verb.set.name :: rest)).Starts World.bare
      { configFile := some "softap.conf", command := .set request } s w₁ :=
    ⟨hset, nofun, ⟨Log.Level.info, by decide +kernel⟩, hs⟩
  have htells : ((run.on (before ++ Verb.set.name :: rest)).ending World.bare).tellsWritten =
      true := by decide +kernel
  obtain ⟨_, hrequest, -, hview, -, -, hchecked, hfinish, hagrees⟩ :=
    agreement hbefore hstarts
  cases hrequest
  have hstored := (hagrees w₁.faults).stored
  obtain ⟨hending, hafter⟩ := Prod.mk.inj hfinish
  refine ⟨hbefore, _, s, w₁, hstarts, hchecked.2 (by decide), hview, ?_⟩
  rw [hending] at htells
  rw [hafter]
  exact hstored htells

/-- An acceptable request. -/
def Request.plain : Request := { ssid := "net" }

/-- In a world without files a plain request fails for the reason that it is stuck for. -/
theorem finish_of_stuck (hpath : s.path = p) (hfault : p.nameFault? = none)
    (hfiles : w₁.files = World.bare.files) (h : Stuck .plain p w₁.faults World.bare.files e) :
    (finish (.set .plain) s w₁).1 = .failed e := by
  have hzero : writable 0 = true := Config.writable_of_fitsInt32 (by decide)
  rw [← hfiles] at h
  exact (@agrees_finish p w₁ .plain s w₁.faults hpath hfault ⟨hzero, hzero⟩).stuck e h |>.2

/-- An acceptable configuration may fail to be set: where the separator is given for its band;
and where a store has come to run over a path below directories that cannot be made, or one
that ends in no name, since its own default had no bytes. -/
theorem failures_of_stuck :
    (¬ ∀ (run : Invoked) (rest : List Text) (w : World) (i : Invocation) (s : Store) (w₁ : World),
      (run.on (Verb.set.name :: rest)).Starts w i s w₁ →
      ((run.on (Verb.set.name :: rest)).ending w).code =
        ((run.on (Verb.validate.name :: rest)).ending w).code) ∧
    (∃ faults o p s w₁, Store.start o p (Path.ofText "template.txt") { World.bare with faults } =
        .ok s w₁ ∧
      (finish (.set .plain) s w₁).1 = .failed .tooDeep) ∧
    ∃ o s w₁, Store.start o (Path.ofText ".") (Path.ofText "template.txt") World.bare = .ok s w₁ ∧
      (finish (.set .plain) s w₁).1 = .failed (.unnamed (Path.ofText ".")) := by
  obtain ⟨bytes, hbytes⟩ : ∃ bytes, Request.plain.config.encode = .ok bytes := ⟨_, rfl⟩
  have hcheck : Request.plain.config.check = none := by decide
  have hnumber : Request.plain.lacksNumber = false := by decide
  refine ⟨fun h => ?_, ?_, ?_⟩
  · have hread : Invocation.ofArguments [Verb.set.name, "--ssid=net", "--open", "--band=--"] =
        .ok { command := .set { ssid := "net", band := none } } := by decide +kernel
    have hstart : Ends (startStore (Settings.ofEnvironment fun _ => none)
        { command := .set { ssid := "net", band := none } })
        ((Invoked.plain []).started World.bare) (fun _ _ => True) (fun _ _ => False) := by
      decide +kernel
    obtain ⟨s, w₁, hs, -⟩ := hstart.exists_ok
    have hcodes := h (Invoked.plain []) ["--ssid=net", "--open", "--band=--"] World.bare _ s w₁
      ⟨hread, nofun, ⟨Log.Level.info, by decide +kernel⟩, hs⟩
    revert hcodes
    decide +kernel
  · obtain ⟨p, hname, hfault, hroom⟩ := Config.exists_not_hasRoom
    obtain ⟨o, hstarts⟩ := Store.exists_start_of_long { room := some 1000 }
    obtain ⟨s, w₁, hstart, hpath, hfiles, hfaults⟩ := hstarts p hfault
    rw [← hfaults] at hroom
    exact ⟨_, o, p, s, w₁, hstart,
      finish_of_stuck hpath hfault hfiles (.room hcheck hnumber hbytes hname hroom)⟩
  · have hfault : (Path.ofText ".").nameFault? = none := by decide
    obtain ⟨o, hstarts⟩ := Store.exists_start_of_long Faults.none
    obtain ⟨s, w₁, hstart, hpath, hfiles, -⟩ := hstarts (Path.ofText ".") hfault
    exact ⟨o, s, w₁, hstart,
      finish_of_stuck hpath hfault hfiles (.unnamed hcheck hnumber hbytes (by decide))⟩

end CommandLine
end Hotspot
