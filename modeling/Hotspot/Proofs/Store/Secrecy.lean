/-
# What is told of a key over a run

Two stores are asked the same things, but for the keys of the configurations they
are handed. If the same is told of the keys (`Config.Alike`), the stores cannot be
told apart: not by the log, not by what they answer, and not by the configurations
they hand out, as long as these are shown without the key.

| may differ | may not differ |
| --- | --- |
| the key of the active configuration | the rest of the store |
| the contents of files | the shape of the file system |
| | random inputs, backup service, log |
-/

import Hotspot.Proofs.Config.Secrecy
import Hotspot.Proofs.Store.Alike
import Hotspot.Proofs.Store.Writing
import Mathlib.Data.List.Forall2

namespace Hotspot

open FileSystem (SameShape)

namespace Store

variable {c c' : Config} {r r' : Running}

/-- The key of the active configuration may differ, and the contents of files. -/
def keyless : Kinship where
  config := Config.Alike
  concurrency := (· = ·)
  files := SameShape
  records := (· = ·)
  config_refl := .refl
  records_append _ _ _ h := congrArg (· ++ _) h
  lockstep_store _ _ faults p h := Config.lockstep_store h.encode faults p

/-- A store is like itself. -/
theorem alike_refl (r : Running) : r.Alike keyless r :=
  ⟨rfl, .refl _, rfl, ⟨.refl _, rfl, rfl, rfl, rfl, rfl⟩⟩

/-- A check finds and logs the same of both configurations. -/
theorem lockstep_check (h : c.Alike c') :
    Lockstep (World.Alike keyless) (· = ·) (check c) (check c') := by
  rw [check, check, h.check]
  exact .bind_eq (World.lockstep_log _) fun _ => .pure rfl

/-- So does collecting all that is wrong with them. -/
theorem lockstep_collect (h : c.Alike c') :
    Lockstep (World.Alike keyless) (· = ·) (collect c) (collect c') := by
  rw [collect, collect, h.violations]
  exact .bind_eq (World.lockstep_log _) fun _ => .pure rfl

/-! ## What is seen -/

/-- What is asked of a store, or of the rules beside it. -/
inductive Query
  | ask (request : Request)
  /-- The broken rules of a configuration. -/
  | collect (config : Config)
  deriving DecidableEq, Repr

/-- An answer, with a configuration as it is shown without its key. -/
inductive Shown
  | config (shown : Json)
  /-- A configuration was set, and is on file or not. -/
  | written (onFile : Bool)
  | checked (violation : Option Config.Violation)
  | collected (violations : List Config.Violation)
  | done
  deriving Repr

/-- A reply as it is shown. -/
def Reply.shown : Reply → Shown
  | .config c => .config c.redacted
  | .written onFile => .written onFile
  | .checked violation => .checked violation
  | .done => .done

/-- Answers what is asked. -/
def answer : Query → Step Shown
  | .ask request => do pure (← reply request).shown
  | .collect c => do pure (.collected (← inWorld (collect c)))

/-- What is seen of an answer: the answer itself or how it fails, and the log by then. -/
structure Seen where
  answer : Except Failure Shown
  records : List Log.Record

/-- What is seen of an answer. -/
def Running.seen (r : Running) (query : Query) : Seen :=
  match Store.answer query r with
  | .ok shown r => ⟨.ok shown, r.world.records⟩
  | .error e r => ⟨.error e, r.world.records⟩

/-- What is seen over a run. -/
def Running.trace (r : Running) : List (Faults × Query) → List Seen
  | [] => []
  | (faults, query) :: queries =>
    let r := r.withFaults faults
    r.seen query :: (r.after (Store.answer query)).trace queries

/-- The same is asked, but for keys of which the same is told. -/
inductive Query.Alike : Query → Query → Prop
  | same (query : Query) : Alike query query
  | set {c c' : Config} (h : c.Alike c') : Alike (.ask (.set (some c))) (.ask (.set (some c')))
  | validate {c c' : Config} (h : c.Alike c') : Alike (.ask (.validate c)) (.ask (.validate c'))
  | collect {c c' : Config} (h : c.Alike c') : Alike (.collect c) (.collect c')

/-! ## No run tells of a key -/

/-- Setting the one or the other is answered alike. -/
theorem lockstep_answer_set {c c' : Option Config} (h : Option.Rel Config.Alike c c') :
    Lockstep (Running.Alike keyless) (· = ·) (answer (.ask (.set c))) (answer (.ask (.set c'))) :=
  .bind_eq (.bind_eq (lockstep_set h) fun _ => .pure rfl) fun _ => .pure rfl

/-- Checking the one or the other is answered alike. -/
theorem lockstep_answer_validate (h : c.Alike c') :
    Lockstep (Running.Alike keyless) (· = ·) (answer (.ask (.validate c)))
      (answer (.ask (.validate c'))) :=
  .bind_eq (.bind_eq (lockstep_inWorld (lockstep_check h)) fun _ => .pure rfl) fun _ => .pure rfl

/-- Collecting what is wrong with either is answered alike. -/
theorem lockstep_answer_collect (h : c.Alike c') :
    Lockstep (Running.Alike keyless) (· = ·) (answer (.collect c)) (answer (.collect c')) :=
  .bind_eq (lockstep_inWorld (lockstep_collect h)) fun _ => .pure rfl

/-- Two stores that are alike answer the same question alike. -/
theorem lockstep_answer_same (query : Query) :
    Lockstep (Running.Alike keyless) (· = ·) (answer query) (answer query) := by
  cases query with
  | collect c => exact lockstep_answer_collect (.refl c)
  | ask request =>
    cases request with
    | set c =>
      cases c with
      | none => exact lockstep_answer_set .none
      | some c => exact lockstep_answer_set (.some (.refl c))
    | validate c => exact lockstep_answer_validate (.refl c)
    | get =>
      intro r r' hr
      exact ⟨congrArg Shown.config hr.config.redacted, hr⟩
    | localOnly =>
      exact .bind_eq (.bind_eq lockstep_localOnly fun _ => .pure rfl) fun _ => .pure rfl
    | setDualActive active =>
      refine .bind_eq (.bind_eq (.modify fun s s' hs => ?_) fun _ => .pure rfl) fun _ => .pure rfl
      have hactive :=
        congrArg (fun k : Concurrency => { k with dualActive := active }) hs.concurrency
      exact ⟨by rw [← hs.store]; rfl, hs.config, hactive, hs.world⟩

/-- Questions that are alike are answered alike. -/
theorem lockstep_answer {query query' : Query} (h : query.Alike query') :
    Lockstep (Running.Alike keyless) (· = ·) (answer query) (answer query') := by
  cases h with
  | same => exact lockstep_answer_same query
  | set h => exact lockstep_answer_set (.some h)
  | validate h => exact lockstep_answer_validate h
  | collect h => exact lockstep_answer_collect h

/-- One step: the same is seen of two answers, and the stores stay alike. -/
theorem Running.Alike.answer (hr : r.Alike keyless r') {query query' : Query}
    (h : query.Alike query') :
    r.seen query = r'.seen query' ∧
      (r.after (Store.answer query)).Alike keyless (r'.after (Store.answer query')) := by
  rw [seen, seen, after, after]
  rcases (lockstep_answer h).cases hr with
    ⟨shown, t, _, t', ht, ht', rfl, h⟩ | ⟨e, t, t', ht, ht', h⟩
  · rw [ht, ht']
    exact ⟨congrArg (Seen.mk _) h.world.records, h⟩
  · rw [ht, ht']
    exact ⟨congrArg (Seen.mk _) h.world.records, h⟩

/-- A run: the same is seen of two stores that are alike and are asked the same but for
keys. -/
theorem Running.Alike.trace (hr : r.Alike keyless r') {queries queries' : List (Faults × Query)}
    (h : List.Forall₂ (fun a a' => a.1 = a'.1 ∧ a.2.Alike a'.2) queries queries') :
    r.trace queries = r'.trace queries' := by
  -- each answer leaves the stores alike, which is what the next one asks for
  induction h generalizing r r' with
  | nil => rfl
  | @cons a a' _ _ ha _ ih =>
    obtain ⟨faults, query⟩ := a
    obtain ⟨_, query'⟩ := a'
    obtain ⟨rfl, hquery⟩ := ha
    obtain ⟨hseen, hafter⟩ := (hr.withFaults faults).answer hquery
    rw [Running.trace, Running.trace]
    exact congrArg₂ List.cons hseen (ih hafter)

/-- **Nothing is told of a key that its measures do not tell.** If a store is asked the same
in two runs, with the same calls made to fail, but for keys that are not empty, take the
same number of bytes as text and on file, and both have a surrogate or both have none,
then the same is seen in both runs: each answer or failure, with configurations shown
without the key, and every record of the log. -/
theorem secrecy (r : Running) {queries queries' : List (Faults × Query)}
    (h : List.Forall₂ (fun a a' => a.1 = a'.1 ∧ a.2.Alike a'.2) queries queries') :
    r.trace queries = r.trace queries' :=
  (alike_refl r).trace h

/-- Two keys of eight letters: one is set and read again, then checked. -/
theorem secrecy_of_letters :
    let store : Store := {
      path := Path.ofText "softap.conf", overlay := Overlay.ofMembers []
      config := { ssid := some "AP" }, origin := .loaded, channels := none
      roles := Roles.ofCandidates [], concurrency := {} }
    let config (key : Text) : Config :=
      { ssid := some "AP", keyManagement := some (KeySet.singleton 4), key := some key }
    let queries (key : Text) : List (Faults × Query) := [
      (Faults.none, .ask (.set (some (config key)))), (Faults.none, .ask .get),
      (Faults.none, .ask (.validate (config key))), (Faults.none, .collect (config key))]
    ("password" : Text) ≠ "drowssap" ∧
      Running.trace ⟨store, World.bare⟩ (queries "password") =
        Running.trace ⟨store, World.bare⟩ (queries "drowssap") := by
  intro store config queries
  refine ⟨by decide, secrecy ⟨store, World.bare⟩ ?_⟩
  have h : (config "password").Alike (config "drowssap") :=
    ⟨rfl, rfl, rfl, rfl, rfl, .other (by decide) (by decide) (by decide) (by decide) (by decide)⟩
  exact .cons ⟨rfl, .set h⟩ (.cons ⟨rfl, .same _⟩ (.cons ⟨rfl, .validate h⟩
    (.cons ⟨rfl, .collect h⟩ .nil)))

end Store
end Hotspot
