/-
# Levels of runs

A command line is carried out without a look at its level, which is used before, to refuse
what is no level, and after, to choose what is shown of the log:

| the level stands for | ending and world | log |
| --- | --- | --- |
| a level | the same at any level | the records at the level and above |
| no level | a failure, before anything is done | nothing |

Of all failures only the refusal is one of a level. So a level makes a command fail by the two
names that stand for none, and by no other text.
-/

import Hotspot.Proofs.CommandLine.Reading
import Hotspot.Proofs.CommandLine.Safety
import Hotspot.Proofs.Log.Levels

namespace Hotspot

variable {σ α β : Type}

/-! ## Failures that are not of a level -/

/-- An action that does not fail for want of a level. -/
def NeedsNoLevel (x : EStateM Failure σ α) : Prop :=
  ∀ s, Ends x s (fun _ _ => True) fun e _ => ∀ value, e ≠ .level value

namespace NeedsNoLevel

/-- Giving a value does not fail. -/
theorem pure (a : α) : NeedsNoLevel (Pure.pure a : EStateM Failure σ α) := fun _ => .pure trivial

/-- Nor does reading the state. -/
theorem get : NeedsNoLevel (get : EStateM Failure σ σ) := fun _ => .get trivial

/-- Nor does changing it. -/
theorem modify (f : σ → σ) : NeedsNoLevel (modify f : EStateM Failure σ PUnit) :=
  fun _ => .modify trivial

/-- A failure of another kind is not for want of a level. -/
theorem throw {e : Failure} (h : ∀ value, e ≠ .level value) :
    NeedsNoLevel (throw e : EStateM Failure σ α) := fun _ => .throw h

/-- Of two actions one after the other neither fails so. -/
theorem bind {x : EStateM Failure σ α} {f : α → EStateM Failure σ β} (h : NeedsNoLevel x)
    (hf : ∀ a, NeedsNoLevel (f a)) : NeedsNoLevel (x >>= f) :=
  fun s => .bind (h s) fun a s' _ => hf a s'

/-- A result is no failure for want of a level if none of its errors is wrapped as one. -/
theorem orFail {ε : Type} {wrap : ε → Failure} {result : Except ε α}
    (h : ∀ e, result = .error e → ∀ value, wrap e ≠ .level value) :
    NeedsNoLevel (World.orFail wrap result) := by
  cases result with
  | ok a => exact pure a
  | error e => exact throw (h e rfl)

/-- Drawing fails as a draw. -/
theorem draw (generator : EStateM Text Entropy Config) : NeedsNoLevel (World.draw generator) := by
  intro w
  rw [Ends, World.draw]
  cases generator w.entropy with
  | ok c entropy => trivial
  | error message entropy =>
    intro value h
    cases h

/-- So does drawing for a template, or the template cannot be shown. -/
theorem drawFrom (template : Option Text) (generator : Text → EStateM Text Entropy Config) :
    NeedsNoLevel (World.drawFrom template generator) := by
  cases template with
  | none =>
    refine .throw fun value h => ?_
    cases h
  | some template => exact .draw _

/-- A list of the overlay may be none, or have too many digits. -/
theorem orFail_ofListError (result : Except ListError α) :
    NeedsNoLevel (World.orFail .ofListError result) := by
  refine .orFail fun e _ value h => ?_
  cases e <;> cases h

/-- Writing gives its failure as a value. -/
theorem write (p : Path) (c : Config) : NeedsNoLevel (World.write p c) := by
  intro w
  rw [Ends, World.write]
  cases Config.store w.faults p c w.files <;> trivial

/-- What is done in the world fails as it does there. -/
theorem inWorld {action : Action α} (h : NeedsNoLevel action) :
    NeedsNoLevel (Store.inWorld action) :=
  fun r => Store.ends_inWorld (h r.world)

end NeedsNoLevel

/-! ## Stores -/

namespace Store

/-- A refusal to write is reported as a failure of other kinds. -/
theorem report_ne_level (refusal : Config.WriteError) (value : Log.Level.NoLevel) :
    report refusal ≠ .error (.level value) := by
  intro h
  rw [report.eq_def] at h
  split at h <;> cases h

/-- So saving does not fail for want of a level. -/
theorem needsNoLevel_save (p : Path) (op : Operation) (c : Config) :
    NeedsNoLevel (save p op c) := by
  refine .bind (.write p c) fun refusal => ?_
  cases refusal with
  | none => exact .bind (.modify _) fun _ => .pure true
  | some refusal =>
    refine .bind (.orFail fun e h value heq => ?_) fun reason => ?_
    · obtain rfl : e = .level value := heq
      exact report_ne_level refusal value h
    · exact .bind (.modify _) fun _ => .pure false

/-- Nor does loading a configuration or falling back. -/
theorem needsNoLevel_startConfig (o : Overlay) (p : Path) : NeedsNoLevel (startConfig o p) := by
  refine .bind .get fun w => ?_
  cases Config.load w.files p with
  | ok c => exact .bind (.modify _) fun _ => .pure _
  | error e =>
    refine .bind (.orFail nofun) fun told => .bind (.modify _) fun _ => ?_
    refine .bind (.drawFrom _ _) fun c => .bind (needsNoLevel_save p .init c) fun written => ?_
    cases written <;> exact .pure _

/-- Nor does reading the template. -/
theorem needsNoLevel_startConcurrency (o : Overlay) (template : Path) :
    NeedsNoLevel (startConcurrency o template) := by
  refine .bind (.orFail_ofListError _) fun dualInterfaces => .bind .get fun w => ?_
  refine .bind (.orFail nofun) fun reading => .bind (.modify _) fun _ => .orFail nofun

/-- Nor does a start, which does these one after the other. -/
theorem needsNoLevel_start (o : Overlay) (p template : Path) :
    NeedsNoLevel (start o p template) := by
  refine .bind (needsNoLevel_startConfig o p) fun config => ?_
  refine .bind (.bind (.modify _) fun _ => .bind (.orFail_ofListError _) fun channels =>
    .bind (.modify _) fun _ => .pure _) fun channels => ?_
  refine .bind (.orFail_ofListError _) fun candidates => ?_
  exact .bind (needsNoLevel_startConcurrency o template) fun concurrency => .pure _

/-- Nor does setting a configuration, whose failures are passed on. -/
theorem needsNoLevel_set (given : Option Config) : NeedsNoLevel (set given) := by
  have hreplace : NeedsNoLevel (replace given) := by
    refine .bind .get fun r => .bind (.inWorld ?_) fun a => .bind (.modify _) fun _ => ?_
    · cases given with
      | none => exact .bind (.drawFrom _ _) fun c => .pure _
      | some c => exact .pure _
    · refine .bind .get fun r => .bind (.inWorld (needsNoLevel_save _ _ _)) fun written => ?_
      exact .bind (.modify _) fun _ => .pure _
  -- A failure is passed on after the notice, which cannot fail.
  intro r
  rw [Ends, set]
  cases h : replace given r with
  | ok written r' => trivial
  | error e r' => exact (hreplace r).of_error h

end Store

namespace CommandLine

open Log (Level)

variable {i : Invocation}

/-! ## Commands -/

/-- Carrying out a request does not fail for want of a level. -/
theorem needsNoLevel_setRequest (request : Request) : NeedsNoLevel (setRequest request) := by
  have hset : NeedsNoLevel (do
      let written ← Store.set (some request.config)
      return setAnswer written (request.shown (← get).store.config)) :=
    .bind (Store.needsNoLevel_set _) fun written => .bind .get fun r => .pure _
  have hnumber (value : Level.NoLevel) : Failure.noNumber ≠ .level value := by
    intro h
    cases h
  rw [setRequest]
  split
  · refine .bind (.inWorld ?_) fun _ => .bind (.throw hnumber) fun _ => hset
    exact .bind (.modify _) fun _ => .bind .get fun w => .modify _
  · exact hset

/-- Nor does any command on a store. -/
theorem needsNoLevel_onStore (command : Command) : NeedsNoLevel (onStore command) := by
  cases command with
  | view reveal => exact .bind .get fun r => .pure _
  | reset => exact .bind (Store.needsNoLevel_set none) fun written => .bind .get fun r => .pure _
  | set request =>
    refine .bind (.inWorld (.bind (.modify _) fun _ => .pure _)) fun violation => ?_
    cases violation with
    | some v => exact .bind (.inWorld (.modify _)) fun _ => .pure _
    | none => exact needsNoLevel_setRequest request
  | validate request =>
    exact .bind (.inWorld (.bind (.modify _) fun _ => .pure _)) fun violation => .pure _
  | concurrency => exact .bind .get fun r => .pure _
  | localOnly reveal => exact .bind (.bind .get fun r => .inWorld (.drawFrom _ _)) fun c => .pure _

/-- Nor does starting the store of an invocation. -/
theorem needsNoLevel_startStore (settings : Settings) (i : Invocation) :
    NeedsNoLevel (startStore settings i) := by
  refine .bind .get fun w => .bind (.orFail nofun) fun loaded => .bind (.modify _) fun _ => ?_
  exact Store.needsNoLevel_start _ _ _

/-- Carrying out a command line does not fail for want of a level. -/
theorem needsNoLevel_carryOut (settings : Settings) (i : Invocation) :
    NeedsNoLevel (carryOut settings i) := by
  rw [carryOut.eq_def]
  split
  · exact .bind (.bind (.modify _) fun _ => .pure _) fun violation => .pure _
  · refine .bind (needsNoLevel_startStore settings i) fun s w => ?_
    have hcommand := needsNoLevel_onStore i.command ⟨s, w⟩
    unfold Ends
    dsimp only
    cases h : onStore i.command ⟨s, w⟩ with
    | ok a r => trivial
    | error e r => exact hcommand.of_error h

/-! ## Runs -/

/-- What a run comes to at a level, or at what is none, if it comes to an outcome at all
levels. -/
def Outcome.at (outcome : Outcome) (w : World) : Level.Setting → Outcome
  | .level level => { outcome with records := Log.atLevel level outcome.records }
  | .other value => { ending := .failed (.level value), world := w }

/-- What carrying out an invocation comes to, with all that is logged. -/
def carriedOut (settings : Settings) (i : Invocation) (w : World) : Outcome :=
  match carryOut settings i { w with records := [], backup := { logs := true } } with
  | .ok answer world => { ending := .answered answer, records := world.records, world }
  | .error e world => { ending := .failed e, records := world.records, world }

/-- So a command that has got beyond its level does not end for want of one. -/
theorem ending_carriedOut (settings : Settings) (i : Invocation) (w : World)
    (value : Level.NoLevel) : (carriedOut settings i w).ending ≠ .failed (.level value) := by
  have hends :=
    needsNoLevel_carryOut settings i { w with records := [], backup := { logs := true } }
  rw [carriedOut]
  cases h : carryOut settings i { w with records := [], backup := { logs := true } } with
  | ok answer world => nofun
  | error e world =>
    intro hending
    cases hending
    exact hends.of_error h value rfl

/-- A run is its command, seen at the level that is resolved. -/
theorem runInvocation_eq_at (env : Environment) (i : Invocation) (w : World) :
    runInvocation env i w = (carriedOut (Settings.ofEnvironment env) i w).at w
      (Level.resolve i.logLevel (env Settings.logLevelName)) := by
  rw [runInvocation]
  cases Level.resolve i.logLevel (env Settings.logLevelName) with
  | other value => rfl
  | level level =>
    dsimp only
    rw [carriedOut]
    cases carryOut (Settings.ofEnvironment env) i
      { w with records := [], backup := { logs := true } } <;> rfl

/-- Environments that differ at most in the level. -/
def SameButLevel (env env' : Environment) : Prop :=
  ∀ name, name ≠ Settings.logLevelName → env' name = env name

/-- The settings have nothing to do with the level. -/
theorem SameButLevel.ofEnvironment_eq {env env' : Environment} (h : SameButLevel env env') :
    Settings.ofEnvironment env' = Settings.ofEnvironment env := by
  rw [Settings.ofEnvironment, Settings.ofEnvironment]
  dsimp only
  rw [h _ (by decide), h _ (by decide), h _ (by decide)]

/-- Nor has what a command does. -/
theorem carriedOut_withLevel (settings : Settings) (i : Invocation) (l : Option Text) (w : World) :
    carriedOut settings { i with logLevel := l } w = carriedOut settings i w := by
  -- Each command reads the invocation for its files only, so both sides unfold to the same.
  obtain ⟨_, _, _, _, command⟩ := i
  cases command <;> rfl

/-! ## Arguments -/

/-- The text that is given with `--log-level`. The separator is dropped. -/
def levelGiven (x : Text) : Option Text :=
  if x = separatorText then none else some x

/-- The value that is given with `--log-level`. -/
def levelValue (x : Text) : Value :=
  if x = separatorText then .nothing else .text x

/-- Any text can be the value of `--log-level`. -/
theorem reading_logLevel {given : List (Switch × Value)} {before : List Text}
    (hbefore : programForm.reading before = .ok { given }) (x : Text) :
    programForm.reading (before ++ ["--log-level=" ++ x]) =
      .ok { given := given ++ [(Switch.logLevel, levelValue x)] } := by
  obtain ⟨ts, htokens, hreads⟩ := Form.reading_eq_ok.1 hbefore
  obtain ⟨hnone, happend⟩ := hreads.append rfl rfl
  let token : Token := .switch Switch.logLevel (.equals x) ("--log-level=" ++ x)
  have hne : "--log-level=" ++ x ≠ separatorText := by
    intro h
    cases h
  have htoken : programForm.tokens ["--log-level=" ++ x] = .ok [token] := by
    rw [Form.tokens, if_neg hne]
    rfl
  have hvalue : Switch.logLevel.value x = .ok (levelValue x) := by
    rw [Switch.value, levelValue]
    split <;> rfl
  have haccept : programForm.acceptText { given } Switch.logLevel x =
      .ok { given := given ++ [(Switch.logLevel, levelValue x)] } :=
    Form.acceptText_eq_ok.2 ⟨_, hvalue, Form.accept_eq_ok.2 ⟨rfl, by decide, rfl⟩⟩
  have hlast : programForm.Reads { given } [token]
      { given := given ++ [(Switch.logLevel, levelValue x)] } :=
    .value rfl (.equals x []) haccept (.done _)
  refine Form.reading_eq_ok.2 ⟨_, ?_, happend hlast⟩
  rw [Form.tokens_append htokens hnone, htoken]
  rfl

/-- A level given last replaces the one of the invocation and nothing else. -/
theorem behind_logLevel (given : List (Switch × Value)) (command : Command) (x : Text) :
    Invocation.behind (given ++ [(Switch.logLevel, levelValue x)]) command =
      { Invocation.behind given command with logLevel := levelGiven x } := by
  have hother {s : Switch} (hs : (s == Switch.logLevel) = false) :
      ({ given := given ++ [(Switch.logLevel, levelValue x)] } : Reading).text? s =
        ({ given } : Reading).text? s := by
    rw [Reading.text?, Reading.text?, Reading.value?, Reading.value?, List.reverse_append,
      List.reverse_singleton, List.singleton_append, List.lookup_cons, hs]
  have hlevel : ({ given := given ++ [(Switch.logLevel, levelValue x)] } : Reading).text?
      Switch.logLevel = levelGiven x := by
    rw [Reading.text?, Reading.value?, List.reverse_append, List.reverse_singleton,
      List.singleton_append, List.lookup_cons, beq_self_eq_true, levelValue, levelGiven]
    by_cases hx : x = separatorText
    · rw [if_pos hx, if_pos hx]
    · rw [if_neg hx, if_neg hx]
  rw [Invocation.behind, Invocation.behind]
  dsimp only
  rw [hother (by decide), hother (by decide), hother (by decide), hlevel]

/-- A level before the word of a command is that of the command line, and all else is as it is
without it. -/
theorem ofArguments_logLevel {given : List (Switch × Value)} {before rest : List Text} {v : Verb}
    (hbefore : programForm.reading before = .ok { given })
    (h : Invocation.ofArguments (before ++ v.name :: rest) = .ok i) (x : Text) :
    Invocation.ofArguments (before ++ ("--log-level=" ++ x) :: v.name :: rest) =
      .ok { i with logLevel := levelGiven x } := by
  obtain ⟨htokens, command, hread, rfl⟩ := (ofArguments_eq_ok hbefore).1 h
  rw [List.append_cons]
  exact (ofArguments_eq_ok (reading_logLevel hbefore x)).2
    ⟨htokens, command, hread, (behind_logLevel given command x).symm⟩

/-! ## The law of levels -/

/-- Runs that differ at most in the level come to one outcome, of which the level decides what
is shown. -/
theorem run_eq_at (env : Environment) (i : Invocation) (w : World) :
    ∃ outcome : Outcome, (∀ value, outcome.ending ≠ .failed (.level value)) ∧
      ∀ (env' : Environment) (arguments' : List Text) (l : Option Text), SameButLevel env env' →
        Invocation.ofArguments arguments' = .ok { i with logLevel := l } →
        run env' arguments' w = outcome.at w (Level.resolve l (env' Settings.logLevelName)) := by
  refine ⟨carriedOut (Settings.ofEnvironment env) i w, ending_carriedOut _ i w, ?_⟩
  intro env' arguments' l hsame hread
  rw [run, hread]
  dsimp only
  rw [runInvocation_eq_at, hsame.ofEnvironment_eq, carriedOut_withLevel]

/-- **Any text can be given for the level, and it is harmless unless its name is one of two.**
The text stands for what the table of levels, or that of what is no level, holds for its name,
and else for `INFO`. It stands for a level unless the name is `BASIC_FORMAT` or `_STYLES`. With
a level, runs that differ in it only come to the same ending and the same world, and none of
them is refused for want of a level; the level decides what is shown of the log. -/
theorem level_decides_what_is_shown (caller environment : Option Text) (env : Environment)
    (i : Invocation) (w : World) :
    Level.named = ([("CRITICAL", 50), ("FATAL", 50), ("ERROR", 40), ("WARNING", 30),
      ("WARN", 30), ("INFO", 20), ("DEBUG", 10), ("NOTSET", 0)] : List (Text × Int)) ∧
    (∀ setting : Level.Setting, Level.resolve caller environment = setting ↔
      Level.StandsFor (Level.nameAsked caller environment) setting) ∧
    ((∃ level, Level.resolve caller environment = .level level) ↔
      Level.nameAsked caller environment ≠ "BASIC_FORMAT" ∧
        Level.nameAsked caller environment ≠ "_STYLES") ∧
    (∀ (given : List (Switch × Value)) (before rest : List Text) (v : Verb) (x : Text),
      programForm.reading before = .ok { given } →
      Invocation.ofArguments (before ++ v.name :: rest) = .ok i →
      Invocation.ofArguments (before ++ ("--log-level=" ++ x) :: v.name :: rest) =
        .ok { i with logLevel := levelGiven x }) ∧
    ∃ outcome : Outcome, (∀ value, outcome.ending ≠ .failed (.level value)) ∧
      ∀ (env' : Environment) (arguments' : List Text) (l : Option Text), SameButLevel env env' →
        Invocation.ofArguments arguments' = .ok { i with logLevel := l } →
        run env' arguments' w = outcome.at w (Level.resolve l (env' Settings.logLevelName)) :=
  ⟨rfl, fun _ => Level.resolve_eq_iff, Level.exists_level_iff,
    fun _ _ _ _ x hbefore h => ofArguments_logLevel hbefore h x, run_eq_at env i w⟩

/-- A level in letters that are not all ASCII, with a line break behind it: a command is carried
out as it is without it, and what is critical is shown. -/
theorem level_decides_what_is_shown_of_dotless :
    let before : List Text := ["--config-file=softap.conf"]
    let x : Text := "crıtıcal\n"
    let i : Invocation := { configFile := some "softap.conf", command := .concurrency }
    let env : Environment := fun _ => none
    programForm.reading before = .ok { given := [(Switch.configFile, .text "softap.conf")] } ∧
    Invocation.ofArguments (before ++ [Verb.concurrency.name]) = .ok i ∧
    (∃ level, Level.resolve (some x) none = .level level) ∧
    ∃ outcome : Outcome, (∀ value, outcome.ending ≠ .failed (.level value)) ∧
      run env (before ++ [Verb.concurrency.name]) World.bare =
        outcome.at World.bare (.level Level.info) ∧
      run env (before ++ ("--log-level=" ++ x) :: [Verb.concurrency.name]) World.bare =
        outcome.at World.bare (.level Level.critical) := by
  intro before x i env
  have hbefore : programForm.reading before =
      .ok { given := [(Switch.configFile, .text "softap.conf")] } := by decide +kernel
  have hread : Invocation.ofArguments (before ++ [Verb.concurrency.name]) = .ok i := by
    decide +kernel
  have hname : Level.nameAsked (some x) none = "CRITICAL" := by decide +kernel
  obtain ⟨-, hresolve, hlevel, harguments, outcome, hending, hshown⟩ :=
    level_decides_what_is_shown (some x) none env i World.bare
  have hgiven : Invocation.ofArguments (before ++ ("--log-level=" ++ x) ::
      [Verb.concurrency.name]) = .ok { i with logLevel := levelGiven x } :=
    harguments _ before [] .concurrency x hbefore hread
  have hinfo : Level.resolve none none = .level Level.info := by decide +kernel
  have hcritical : Level.resolve (some x) none = .level Level.critical :=
    (hresolve _).2 (.level (by rw [hname]; decide))
  refine ⟨hbefore, hread, hlevel.2 (by rw [hname]; decide), outcome, hending, ?_, ?_⟩
  · rw [hshown env _ none (fun _ _ => rfl) hread, hinfo]
  · rw [hshown env _ _ (fun _ _ => rfl) hgiven, levelGiven, if_neg (by decide), hcritical]

/-- Not all texts are harmless: those whose names stand for no level make a command fail that
is carried out without them. -/
theorem fails_at_format :
    let env : Environment := fun _ => none
    let rest : List Text := ["--ssid=net", "--open"]
    (¬ ∀ caller environment : Option Text, ∃ level,
      Level.resolve caller environment = .level level) ∧
    (run env (Verb.validate.name :: rest) World.bare).ending = .answered (checkAnswer none) ∧
    (run env ("--log-level=basic_format" :: Verb.validate.name :: rest) World.bare).ending =
      .failed (.level (.format Level.basicFormat)) ∧
    (run env ("--log-level= _ſtyles" :: Verb.validate.name :: rest) World.bare).ending =
      .failed (.level (.table Level.styles)) := by
  intro env rest
  let request : Request := { ssid := "net", key := none }
  have hread : Invocation.ofArguments (Verb.validate.name :: rest) =
      .ok { command := .validate request } := by decide +kernel
  have hreadFormat : Invocation.ofArguments
      ("--log-level=basic_format" :: Verb.validate.name :: rest) =
      .ok { logLevel := some "basic_format", command := .validate request } := by decide +kernel
  have hreadTable : Invocation.ofArguments
      ("--log-level= _ſtyles" :: Verb.validate.name :: rest) =
      .ok { logLevel := some " _ſtyles", command := .validate request } := by decide +kernel
  have hinfo : Level.resolve none none = .level Level.info := by decide +kernel
  have hformat : Level.resolve (some "basic_format") none = .other (.format Level.basicFormat) := by
    decide +kernel
  have htable : Level.resolve (some " _ſtyles") none = .other (.table Level.styles) := by
    decide +kernel
  have hcheck : request.config.check = none := by decide
  refine ⟨fun h => ?_, ?_, ?_, ?_⟩
  · obtain ⟨level, hlevel⟩ := h (some "basic_format") none
    cases hformat.symm.trans hlevel
  · rw [run, hread]
    dsimp only
    rw [runInvocation_eq_at, hinfo]
    show Ending.answered (checkAnswer request.config.check) = _
    rw [hcheck]
  · rw [run, hreadFormat]
    dsimp only
    rw [runInvocation_eq_at, hformat, Outcome.at]
  · rw [run, hreadTable]
    dsimp only
    rw [runInvocation_eq_at, htable, Outcome.at]

end CommandLine
end Hotspot
