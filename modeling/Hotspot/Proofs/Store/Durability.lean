/-
# Durability of the store

What a store owes its caller follows from the requests and their replies alone. A
`Ledger` keeps it: the configuration adopted last, and the one written last, if
any was. Over every run, with any calls made to fail before any request, the
active configuration is the one adopted last. On file is the one written last,
entirely and for its owner alone, or the entry that was there before the store.

The one way in which an entry comes about otherwise is over a path that is not
settled. The directories of a path are made before its file is written; if the
writing fails they stay, and `a/../a` leads to one of them.
-/

import Hotspot.Proofs.Store.Writing

namespace Hotspot
namespace Store

open Config (Holds Stored)

variable {p template : Path} {fs : FileSystem} {l : Ledger} {r : Running} {o : Overlay} {w : World}

/-! ## The ledger of a run -/

/-- The ledger after one more request: a configuration that is set is adopted, and it
is written if the reply says so. -/
def Ledger.next (l : Ledger) (r : Running) : Request → Ledger
  | .set c =>
    match adopted r c with
    | none => l
    | some c' =>
      { active := c'
        onFile := match reply (.set c) r with
          | .ok (.written true) _ => some c'
          | _ => l.onFile }
  | _ => l

/-- The ledger after a sequence of requests. -/
def Ledger.nextAll (l : Ledger) (r : Running) : List (Faults × Request) → Ledger
  | [] => l
  | (faults, request) :: requests =>
    let r := r.withFaults faults
    (l.next r request).nextAll (r.after (reply request)) requests

/-! ## The invariant -/

/-- A running store does what its ledger says, for what was at its path before. -/
structure Durable (p : Path) (fs : FileSystem) (l : Ledger) (r : Running) : Prop where
  path : r.store.path = p
  active : r.store.config = l.active
  onFile : Holds p fs l.onFile r.world.files

/-- What is on file does not depend on the calls that fail next. -/
theorem Durable.withFaults (h : Durable p fs l r) (faults : Faults) :
    Durable p fs l (r.withFaults faults) :=
  ⟨h.path, h.active, h.onFile⟩

/-- The reply to a setting is whether it was written. -/
theorem reply_set_of_ok {c : Option Config} {written : Bool} {r' : Running}
    (h : set c r = .ok written r') : reply (.set c) r = .ok (.written written) r' := by
  show EStateM.bind (set c) _ r = _
  rw [EStateM.bind, h]
  rfl

/-- Or its failure. -/
theorem reply_set_of_error {c : Option Config} {e : Failure} {r' : Running}
    (h : set c r = .error e r') : reply (.set c) r = .error e r' := by
  show EStateM.bind (set c) _ r = _
  rw [EStateM.bind, h]

/-- A setting that is written enters the ledger; one that is not leaves the file that was
there. -/
theorem Durable.after_set (h : Durable p fs l r) (c : Option Config) :
    Durable p fs (l.next r (.set c)) (r.after (reply (.set c))) := by
  have hset := ends_set r c
  cases hr : set c r with
  | ok written r' =>
    obtain ⟨c', hadopted, hstore, hholds⟩ := hset.of_ok hr
    have hreply := reply_set_of_ok hr
    rw [Ledger.next, Running.after, hadopted, hreply]
    rw [h.path] at hholds
    have honFile := h.onFile.trans hholds
    refine ⟨by rw [hstore, h.path], by rw [hstore], ?_⟩
    cases written with
    | true => exact honFile
    | false => exact honFile
  | error e r' =>
    obtain ⟨hstore, hspares⟩ := hset.of_error hr
    have hreply := reply_set_of_error hr
    rw [Ledger.next, Running.after, hreply]
    rw [h.path] at hspares
    have hholds : Holds p r.world.files none r'.world.files := hspares
    have honFile := h.onFile.trans hholds
    cases hadopted : adopted r c with
    | none =>
      rw [hadopted] at hstore
      exact ⟨by rw [hstore, h.path], by rw [hstore]; exact h.active, honFile⟩
    | some c' =>
      rw [hadopted] at hstore
      exact ⟨by rw [hstore, h.path], by rw [hstore]; rfl, honFile⟩

/-- A request that sets nothing leaves the configuration and the files. -/
theorem Durable.after_other (h : Durable p fs l r) {request : Request}
    (hother : ∀ c, request ≠ .set c) :
    Durable p fs (l.next r request) (r.after (reply request)) := by
  cases request with
  | set c => exact absurd rfl (hother c)
  | get => exact h
  | validate c => exact ⟨h.path, h.active, h.onFile⟩
  | setDualActive active => exact ⟨h.path, h.active, h.onFile⟩
  | localOnly =>
    refine after_of_ends (.bind (Q := fun _ => Durable p fs l) (.get_bind (ends_inWorld
      (.mono (World.ends_drawFrom _ _ r.world) ?_ ?_))) fun _ _ h => .pure h)
    all_goals
      rintro _ _ ⟨-, entropy, rfl⟩
      exact ⟨h.path, h.active, h.onFile⟩

/-- So every request keeps the ledger right. -/
theorem Durable.after (h : Durable p fs l r) (request : Request) :
    Durable p fs (l.next r request) (r.after (reply request)) := by
  by_cases hset : ∃ c, request = .set c
  · obtain ⟨c, rfl⟩ := hset
    exact h.after_set c
  · exact h.after_other fun c hc => hset ⟨c, hc⟩

/-- So the ledger is right after any number of requests, by induction on them. -/
theorem Durable.afterAll (h : Durable p fs l r) (requests : List (Faults × Request)) :
    Durable p fs (l.nextAll r requests) (r.afterAll requests) := by
  induction requests generalizing l r with
  | nil => exact h
  | cons request requests ih => exact ih ((h.withFaults request.1).after request.2)

/-! ## Durability -/

/-- A path that is settled or was written to is settled from then on. -/
theorem settled_of_holds {written : Option Config} {fs' : FileSystem}
    (h : Holds p fs written fs') (hs : fs.Settled p ∨ written.isSome) : fs'.Settled p := by
  cases written with
  | none =>
    rcases hs with hs | hs
    · exact Config.Spares.settled h hs
    · cases hs
  | some c =>
    obtain ⟨bytes, -, he⟩ := h
    exact FileSystem.settled_of_entryAt? he

/-- What a reply says of the file. -/
theorem onFile_of_reply_set (r : Running) (c : Option Config) :
    match reply (.set c) r with
    | .ok (.written true) r' => Stored r.store.path r'.store.config r'.world.files
    | .ok _ r' | .error _ r' => r.world.files.Settled r.store.path →
      r'.world.files.entryAt? r.store.path = r.world.files.entryAt? r.store.path := by
  have hset := ends_set r c
  cases hr : set c r with
  | ok written r' =>
    obtain ⟨c', -, hstore, hholds⟩ := hset.of_ok hr
    rw [reply_set_of_ok hr]
    cases written with
    | true =>
      have honFile : Stored r.store.path r'.store.config r'.world.files := by
        rw [hstore]
        exact hholds
      exact honFile
    | false => exact Config.Spares.entryAt? hholds
  | error e r' =>
    obtain ⟨-, hspares⟩ := hset.of_error hr
    rw [reply_set_of_error hr]
    exact hspares.entryAt?

/-- **The store is durable.** Over every run of a store, with any calls made to fail
before it and before each request:

* at its path is the configuration written last, for its owner alone, or else the entry
  from before the store, as long as the path is settled;
* the configuration it hands out is the one adopted last;
* a configuration that is set is on file if the reply says so, and if not the entry is
  the same.

A path is settled if each `..` in it stands behind directories that are there; it stays
so, and it is so once a configuration was written. -/
theorem durability {s : Store} {w' : World} (hstart : start o p template w = .ok s w')
    (requests : List (Faults × Request)) :
    ∃ l, Ledger.opening o p w = some l ∧
      let r := Running.afterAll ⟨s, w'⟩ requests
      let l := l.nextAll ⟨s, w'⟩ requests
      (match l.onFile with
        | some c => Stored p c r.world.files
        | none => w.files.Settled p → r.world.files.entryAt? p = w.files.entryAt? p) ∧
      (w.files.Settled p ∨ l.onFile.isSome → r.world.files.Settled p) ∧
      reply .get r = .ok (.config l.active) r ∧
      ∀ faults c,
        match reply (.set c) (r.withFaults faults) with
        | .ok (.written true) r' => Stored p r'.store.config r'.world.files
        | .ok _ r' | .error _ r' =>
          r.world.files.Settled p → r'.world.files.entryAt? p = r.world.files.entryAt? p := by
  obtain ⟨l, hl, hpath, -, hactive, honFile⟩ := (ends_start o p template w).of_ok hstart
  refine ⟨l, hl, ?_⟩
  have hdurable := Durable.afterAll (r := ⟨s, w'⟩) ⟨hpath, hactive, honFile⟩ requests
  intro r l'
  refine ⟨?_, settled_of_holds hdurable.onFile, ?_, fun faults c => ?_⟩
  · have honFile := hdurable.onFile
    generalize l'.onFile = written at honFile ⊢
    cases written with
    | none => exact Config.Spares.entryAt? honFile
    | some c => exact honFile
  · show EStateM.Result.ok (Reply.config r.store.config) r = _
    rw [hdurable.active]
  · have hfaults := hdurable.withFaults faults
    have hreply := onFile_of_reply_set (r.withFaults faults) c
    rwa [hfaults.path] at hreply

/-- Two configurations are set over an old file, and the renaming fails for the first one.
It is handed out while the old file is there, as it was; the second one is on file. -/
theorem durability_of_failing_rename :
    let p := Path.ofText "softap.conf"
    let w := World.holdingOld
    let failing : Faults :=
      { refuse := fun call => if call = .rename then some (.refused "no") else none }
    let first : Faults × Request := (failing, .set (some { ssid := some "first" }))
    let second : Faults × Request := (Faults.none, .set (some { ssid := some "second" }))
    ∃ s w', start (Overlay.ofMembers []) p (Path.ofText "template.txt") w = .ok s w' ∧
      let r := Running.afterAll ⟨s, w'⟩ [first]
      let r' := Running.afterAll ⟨s, w'⟩ [first, second]
      (r.world.files.entryAt? p = w.files.entryAt? p ∧
        reply .get r = .ok (.config { ssid := some "first" }) r) ∧
      Stored p { ssid := some "second" } r'.world.files ∧
        reply .get r' = .ok (.config { ssid := some "second" }) r' := by
  intro p w failing first second
  have hrun : Ends (start (Overlay.ofMembers []) p (Path.ofText "template.txt")) w
      (fun s w' =>
        Ledger.nextAll ⟨{ ssid := some "old" }, none⟩ ⟨s, w'⟩ [first] =
          ⟨{ ssid := some "first" }, none⟩ ∧
        Ledger.nextAll ⟨{ ssid := some "old" }, none⟩ ⟨s, w'⟩ [first, second] =
          ⟨{ ssid := some "second" }, some { ssid := some "second" }⟩)
      (fun _ _ => False) := by decide +kernel
  have hopening : Ledger.opening (Overlay.ofMembers []) p w =
      some ⟨{ ssid := some "old" }, none⟩ := by decide +kernel
  have hsettled : w.files.Settled p := FileSystem.settled_of_not_mem (by decide)
  obtain ⟨s, w', hstart, hfirst, hsecond⟩ := hrun.exists_ok
  obtain ⟨l, hl, hkept, -, hget, -⟩ := durability hstart [first]
  obtain ⟨l', hl', hstored, -, hget', -⟩ := durability hstart [first, second]
  obtain rfl := Option.some.inj (hopening.symm.trans hl)
  obtain rfl := Option.some.inj (hopening.symm.trans hl')
  rw [hfirst] at hkept hget
  rw [hsecond] at hstored hget'
  exact ⟨s, w', hstart, ⟨hkept hsettled, hget⟩, hstored, hget'⟩

/-- Where a directory is missing before a `..`, what is at the path may change though
nothing was written there: a start that fails to write makes a directory. -/
theorem entry_of_unsettled_path :
    ¬ ∀ (o : Overlay) (p template : Path) (w : World) (s : Store) (w' : World) (l : Ledger),
      start o p template w = .ok s w' → Ledger.opening o p w = some l →
      l.onFile = none → w'.files.entryAt? p = w.files.entryAt? p := by
  intro h
  have hrun : Ends (start (Overlay.ofMembers []) (Path.ofText "a/../a")
      (Path.ofText "template.txt")) World.bare
      (fun _ w' => w'.files.entryAt? (Path.ofText "a/../a") = some .directory)
      (fun _ _ => False) := by decide
  have hopening : Ledger.opening (Overlay.ofMembers []) (Path.ofText "a/../a") World.bare =
      some ⟨Config.ofDraws "AndroidAP" (-1) 4242 0, none⟩ := by decide
  have hbefore : World.bare.files.entryAt? (Path.ofText "a/../a") = none := by decide
  obtain ⟨s, w', hstart, hafter⟩ := hrun.exists_ok
  have hsame := h _ _ _ _ _ _ _ hstart hopening rfl
  rw [hbefore, hafter] at hsame
  cases hsame

end Store
end Hotspot
