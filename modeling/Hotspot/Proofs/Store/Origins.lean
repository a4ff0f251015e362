/-
# Where a store says its configuration comes from

A store that has started says one of three things of its configuration, and each is so:

| said | file at the path | random inputs | files |
| --- | --- | --- | --- |
| `loaded` | is read as the configuration | none is drawn | as before |
| `persisted` | none, or is read as none | a number and a UUID | hold the configuration |
| `default_generated` | none, or is read as none | a number and a UUID | the same at the path |

The last two tell whether the default that was made up could be written. From then on
what is said changes once at most: to `active`, by the first setting that does not fail,
whether or not the configuration that is set is written.
-/

import Hotspot.Proofs.Store.Durability
import Hotspot.Proofs.Store.Notices
import Hotspot.Proofs.Store.Saving

namespace Hotspot

open Config (Completes Stored)

variable {o : Overlay} {p template : Path} {w w' : World} {c : Config} {fs : FileSystem}

/-! ## Loading -/

namespace Config

/-- The file at a path can be read, and its content is read as a configuration. -/
def ReadsAs (p : Path) (fs : FileSystem) (c : Config) : Prop :=
  ∃ bytes, fs.read p = .ok bytes ∧ decode bytes = .ok c

/-- A file is read as one configuration. -/
theorem ReadsAs.unique {c' : Config} (h : ReadsAs p fs c) (h' : ReadsAs p fs c') : c = c' := by
  obtain ⟨bytes, hread, hdecode⟩ := h
  obtain ⟨bytes', hread', hdecode'⟩ := h'
  cases hread.symm.trans hread'
  exact Except.ok.inj (hdecode.symm.trans hdecode')

/-- Loading succeeds where the path can be handed over and the file is read as a
configuration. -/
theorem load_eq_ok_iff : load fs p = .ok c ↔ p.nameFault? = none ∧ ReadsAs p fs c := by
  rw [load, ReadsAs]
  cases p.nameFault? with
  | some fault => simp
  | none =>
    cases fs.read p with
    | error e => simp
    | ok bytes => cases hdecode : decode bytes <;> simp [Except.mapError, hdecode]

/-- A failure that is told of is none of the path. -/
theorem nameFault?_of_kindDetail {e : LoadError} (h : load fs p = .error e)
    {told : FailureKind × Text} (htold : e.kindDetail = .ok told) : p.nameFault? = none := by
  cases hfault : p.nameFault? with
  | none => rfl
  | some fault =>
    rw [load, hfault] at h
    cases h
    cases htold

end Config

namespace Store

open Config (ReadsAs)
open World (IgnoresLog)

variable {s : Store}

/-! ## Starting -/

/-- What a store starts with, and what it has done for it. -/
inductive Opened (o : Overlay) (p : Path) (w : World) : Config × Origin → World → Prop
  | loaded {c : Config} {records : List Log.Record} :
    p.nameFault? = none → ReadsAs p w.files c → Opened o p w (c, .loaded) { w with records }
  | fresh {template : Text} {suffix : Int} {u : Uuid} {records : List Log.Record}
    {written : Bool} {w' : World} :
    p.nameFault? = none →
    (∀ c, ¬ ReadsAs p w.files c) →
    o.template? = some template →
    w.entropy.suffix w.entropy.suffixesDrawn = .ok suffix →
    w.entropy.uuid w.entropy.uuidsDrawn = .ok u →
    Saved p (Config.ofDraws template Config.noNetworkId suffix u)
      { w with
        entropy := { w.entropy with
          suffixesDrawn := w.entropy.suffixesDrawn + 1
          uuidsDrawn := w.entropy.uuidsDrawn + 1 }
        records } written w' →
    Opened o p w (Config.ofDraws template Config.noNetworkId suffix u,
      if written then .persisted else .defaultGenerated) w'

/-- Whether a configuration was saved has nothing to do with what is logged afterwards. -/
theorem ignoresLog_saved {written : Bool} : IgnoresLog (Saved p c w written) := by
  intro w' records h
  cases h with
  | written hcompletes => exact .written hcompletes
  | refused hstore hreport => exact .refused hstore hreport

/-- Nor has what was opened. -/
theorem ignoresLog_opened (a : Config × Origin) : IgnoresLog (Opened o p w a) := by
  intro w' records h
  cases h with
  | loaded hfault hreads => exact .loaded hfault hreads
  | fresh hfault hnone htemplate hsuffix huuid hsaved =>
    exact .fresh hfault hnone htemplate hsuffix huuid (ignoresLog_saved _ _ hsaved)

/-- Where nothing can be loaded, falling back opens on a default. -/
theorem ends_fallBack_opened {records : List Log.Record} (hfault : p.nameFault? = none)
    (hnone : ∀ c, ¬ ReadsAs p w.files c) (o : Overlay) :
    Ends (fallBack o p) { w with records } (Opened o p w) fun _ _ => True := by
  refine .bind (Q := fun c w₁ => ∃ template suffix u, o.template? = some template ∧
    w.entropy.suffix w.entropy.suffixesDrawn = .ok suffix ∧
    w.entropy.uuid w.entropy.uuidsDrawn = .ok u ∧
    c = Config.ofDraws template Config.noNetworkId suffix u ∧
    w₁ = { w with
      entropy := { w.entropy with
        suffixesDrawn := w.entropy.suffixesDrawn + 1
        uuidsDrawn := w.entropy.uuidsDrawn + 1 }
      records }) ?_ ?_
  · cases o.template? with
    | none => exact .throw trivial
    | some template =>
      have hends := w.entropy.ends_generate template Config.noNetworkId
      rw [Ends, World.drawFrom, World.draw, Config.generateDefault]
      dsimp only
      cases hdrawn : Config.generate template Config.noNetworkId w.entropy with
      | ok c entropy =>
        obtain ⟨-, suffix, u, hsuffix, huuid, hc, rfl⟩ := hends.of_ok hdrawn
        exact ⟨template, suffix, u, rfl, hsuffix, huuid, hc, rfl⟩
      | error message entropy => trivial
  · rintro _ _ ⟨template, suffix, u, htemplate, hsuffix, huuid, rfl, rfl⟩
    refine .bind ((ends_save_saved _ p .init _).mono (fun _ _ h => h) fun _ _ _ => trivial)
      fun written w₂ hsaved => ?_
    have hopened := Opened.fresh hfault hnone htemplate hsuffix huuid hsaved
    cases written with
    | true => exact .pure hopened
    | false => exact .pure hopened

/-- So either way a configuration is opened. -/
theorem ends_startConfig_opened (w : World) (o : Overlay) (p : Path) :
    Ends (startConfig o p) w (Opened o p w) fun _ _ => True := by
  refine .get_bind ?_
  cases hload : Config.load w.files p with
  | ok c =>
    obtain ⟨hfault, hreads⟩ := Config.load_eq_ok_iff.1 hload
    exact World.ends_log_bind (.pure (Opened.loaded hfault hreads))
  | error e =>
    refine World.ends_orFail_bind (fun _ => trivial) fun ⟨kind, detail⟩ htold =>
      World.ends_log_bind ?_
    have hfault := Config.nameFault?_of_kindDetail hload htold
    refine ends_fallBack_opened hfault (fun c hreads => ?_) o
    cases hload.symm.trans (Config.load_eq_ok_iff.2 ⟨hfault, hreads⟩)

/-- What a store starts with is what it has when it runs. The rest of a start reads. -/
theorem ends_start_opened (w : World) (o : Overlay) (p template : Path) :
    Ends (start o p template) w (fun s w' => Opened o p w (s.config, s.origin) w')
      fun _ _ => True := by
  refine .bind (ends_startConfig_opened w o p) fun a w₁ h₁ => ?_
  have hlog : IgnoresLog (Opened o p w a) := ignoresLog_opened a
  refine .bind ((preserves_startChannels hlog o w₁ h₁).mono (fun _ _ h => h) fun _ _ _ => trivial)
    fun channels w₂ h₂ => ?_
  refine .bind ((World.Preserves.orFail _ _ w₂ h₂).mono (fun _ _ h => h) fun _ _ _ => trivial)
    fun candidates w₃ h₃ => ?_
  refine .bind ((preserves_startConcurrency hlog o template w₃ h₃).mono (fun _ _ h => h)
    fun _ _ _ => trivial) fun concurrency w₄ h₄ => ?_
  exact .pure h₄

/-! ## Afterwards -/

/-- A use, with what came of it, that has set a configuration. -/
def hasSet (u : Use × Except Failure Answer) : Bool :=
  match u with
  | (.ask (.set _), .ok _) => true
  | _ => false

/-- A setting makes the configuration the active one, unless it fails. -/
theorem origin_after_set (r : Running) (given : Option Config) :
    (r.after (use (.ask (.set given)))).store.origin =
      if hasSet (.ask (.set given), r.outcome (.ask (.set given))) then .active
      else r.store.origin := by
  have hends := ends_set_origin r given
  cases hset : set given r with
  | ok written r' =>
    have huse : use (.ask (.set given)) r = .ok (.reply (.written written)) r' :=
      run_bind_eq_ok.2 ⟨_, _, reply_set_of_ok hset, rfl⟩
    rw [Running.after, Running.outcome, huse]
    exact hends.of_ok hset
  | error e r' =>
    have huse : use (.ask (.set given)) r = .error e r' := by
      show EStateM.bind (reply (.set given)) _ r = _
      rw [EStateM.bind, reply_set_of_error hset]
    rw [Running.after, Running.outcome, huse]
    exact hends.of_error hset

/-- One use: what is said changes if a configuration was set. -/
theorem origin_after_use (r : Running) (u : Use) :
    (r.after (use u)).store.origin =
      if hasSet (u, r.outcome u) then .active else r.store.origin := by
  have hbecome := r.mayBecome_after u
  cases u with
  | lookUp lookup => rfl
  | ask request =>
    cases request with
    | set given => exact origin_after_set r given
    | get => rfl
    | validate c => rfl
    | setDualActive active => rfl
    | localOnly =>
      generalize r.after (use (.ask .localOnly)) = r' at hbecome ⊢
      cases hbecome with
      | read hreading => cases hreading
      | drew => rfl
      | refused => rfl

/-- **A run: what is said changes to `active` by the first setting that has not failed**,
and never after it. -/
theorem origin_afterEvents (r : Running) (events : List Event) :
    (r.afterEvents events).store.origin =
      if (r.history events).any hasSet then .active else r.store.origin := by
  induction events generalizing r with
  | nil => rfl
  | cons event events ih =>
    have hrest := ih (r.afterEvent event)
    cases event with
    | disturbed change => exact hrest
    | used faults u =>
      have hstep : (r.afterEvent (.used faults u)).store.origin = _ :=
        origin_after_use (r.withFaults faults) u
      rw [hstep] at hrest
      rw [Running.history, List.any_cons]
      refine hrest.trans ?_
      cases hasSet (u, (r.withFaults faults).outcome u) with
      | true => simp
      | false => rfl

/-! ## What is said is so -/

/-- A store has made up a default of the next number and the next UUID, and says whether it
could write it. -/
structure FellBack (o : Overlay) (p : Path) (w : World) (s : Store) (w' : World) : Prop where
  config : ∃ template suffix u, o.template? = some template ∧
    w.entropy.suffix w.entropy.suffixesDrawn = .ok suffix ∧
    w.entropy.uuid w.entropy.uuidsDrawn = .ok u ∧
    s.config = Config.ofDraws template Config.noNetworkId suffix u
  entropy : w'.entropy = { w.entropy with
    suffixesDrawn := w.entropy.suffixesDrawn + 1
    uuidsDrawn := w.entropy.uuidsDrawn + 1 }
  origin : s.origin = .persisted ∨ s.origin = .defaultGenerated
  persisted : s.origin = .persisted ↔ Completes w.faults p s.config w.files w'.files
  defaultGenerated : s.origin = .defaultGenerated ↔
    (∃ refusal, s.config.encode = .error refusal) ∨
      ∃ e, Config.store w.faults p s.config w.files = .error (.io e) w'.files
  stored : s.origin = .persisted → Stored p s.config w'.files
  kept : s.origin = .defaultGenerated →
    w.files.Settled p ∨ (w.files.entryAt? p).isSome ∨
      (∃ refusal, s.config.encode = .error refusal) →
    w'.files.entryAt? p = w.files.entryAt? p

/-- A store that has nothing to load falls back. -/
theorem fellBack_of_opened (h : Opened o p w (s.config, s.origin) w')
    (hnone : ∀ c, ¬ ReadsAs p w.files c) : FellBack o p w s w' := by
  generalize hstarted : (s.config, s.origin) = started at h
  cases h with
  | loaded _ hreads => exact absurd hreads (hnone _)
  | @fresh template suffix u _ _ _ hfault _ htemplate hsuffix huuid hsaved =>
    obtain ⟨hconfig, horigin⟩ := Prod.mk.inj hstarted
    rw [← hconfig] at hsaved
    have hstore := Config.ends_store w.faults p s.config w.files
    cases hsaved with
    | written hcompletes =>
      have horigin : s.origin = .persisted := horigin
      have hok := Config.store_eq_ok_iff.2 hcompletes
      have hnot : s.origin ≠ .defaultGenerated := by
        rw [horigin]
        decide
      refine ⟨⟨template, suffix, u, htemplate, hsuffix, huuid, hconfig⟩, rfl, .inl horigin,
        iff_of_true horigin hcompletes, iff_of_false hnot ?_, fun _ => hstore.of_ok hok,
        fun h => absurd h hnot⟩
      rintro (⟨refusal, hrefusal⟩ | ⟨e, he⟩)
      · cases hok.symm.trans (Config.store_of_encode_error hrefusal)
      · cases hok.symm.trans he
    | @refused e files records text herror hreport =>
      have horigin : s.origin = .defaultGenerated := horigin
      have hnot : s.origin ≠ .persisted := by
        rw [horigin]
        decide
      have hspares := hstore.of_error herror
      refine ⟨⟨template, suffix, u, htemplate, hsuffix, huuid, hconfig⟩, rfl, .inr horigin,
        iff_of_false hnot fun hcompletes => ?_, iff_of_true horigin ?_, fun h => absurd h hnot,
        fun _ hkept => ?_⟩
      · cases herror.symm.trans (Config.store_eq_ok_iff.2 hcompletes)
      · rcases refusal_or_io_of_report hreport with ⟨refusal, rfl⟩ | ⟨io, rfl⟩
        · exact .inl ⟨refusal, Config.encode_of_store_error hfault herror⟩
        · exact .inr ⟨io, herror⟩
      · rcases hkept with hsettled | hfound | ⟨refusal, hrefusal⟩
        · exact hspares.entryAt? hsettled
        · obtain ⟨entry, hentry⟩ := Option.isSome_iff_exists.1 hfound
          exact hspares.entryAt? (FileSystem.settled_of_entryAt? hentry)
        · cases herror.symm.trans (Config.store_of_encode_error hrefusal)
          rfl

/-- A store that has something to load has it, and has touched nothing for it. -/
theorem loaded_or_fresh_of_opened (h : Opened o p w (s.config, s.origin) w') :
    (s.origin = .loaded ∧ ReadsAs p w.files s.config ∧ w'.files = w.files ∧
      w'.entropy = w.entropy) ∨
    s.origin ≠ .loaded ∧ ∀ c, ¬ ReadsAs p w.files c := by
  generalize hstarted : (s.config, s.origin) = started at h
  cases h with
  | loaded _ hreads =>
    obtain ⟨rfl, horigin⟩ := Prod.mk.inj hstarted
    exact .inl ⟨horigin, hreads, rfl, rfl⟩
  | @fresh _ _ _ _ written _ _ hnone _ _ _ _ =>
    obtain ⟨-, horigin⟩ := Prod.mk.inj hstarted
    refine .inr ⟨?_, hnone⟩
    rw [horigin]
    cases written with
    | true => decide
    | false => decide

/-- Whatever comes of its file, a path that a store has started on can be handed over. -/
theorem nameFault?_of_opened {a : Config × Origin} (h : Opened o p w a w') :
    p.nameFault? = none := by
  cases h <;> assumption

/-- Opening tells the backup service nothing. -/
theorem backup_of_opened {a : Config × Origin} (h : Opened o p w a w') : w'.backup = w.backup := by
  cases h with
  | loaded _ _ => rfl
  | fresh _ _ _ _ _ hsaved =>
    obtain ⟨files, records, rfl⟩ := hsaved.frame
    rfl

/-- **What a store says of its configuration is so.** Whenever a store comes to run, with
any calls made to fail:

* it says `loaded` just if the file at its path can be read and is read as a configuration;
  then it has that configuration, and has touched no file and drawn nothing;
* else it has made up a default of the template, from one number and one UUID. It says
  `persisted` just if the encoding and each call but the sync and the clean-up succeeded, and
  then the default is on file for its owner alone. It says `default_generated` just if there
  is no encoding or a call failed, and then the entry at the path is the same, as long as the
  path is settled or something was found there or nothing was attempted;
* the backup service was told nothing.

Over every run from there, with any calls and random inputs failing and the files changed by
others, it says the same until the first setting that does not fail, and `active` from then
on. -/
theorem origin_exact (hstart : start o p template w = .ok s w') :
    (s.origin = .loaded ↔ ∃ c, ReadsAs p w.files c) ∧
    (∀ c, ReadsAs p w.files c →
      s.config = c ∧ w'.files = w.files ∧ w'.entropy = w.entropy) ∧
    ((¬ ∃ c, ReadsAs p w.files c) → FellBack o p w s w') ∧
    w'.backup = w.backup ∧
    ∀ events : List Event, (Running.afterEvents ⟨s, w'⟩ events).store.origin =
      if (Running.history ⟨s, w'⟩ events).any hasSet then .active else s.origin := by
  have hopened := (ends_start_opened w o p template).of_ok hstart
  have hbackup := backup_of_opened hopened
  have hrun := origin_afterEvents ⟨s, w'⟩
  rcases loaded_or_fresh_of_opened hopened with
    ⟨horigin, hreads, hfiles, hentropy⟩ | ⟨horigin, hnone⟩
  · exact ⟨iff_of_true horigin ⟨_, hreads⟩, fun c hc => ⟨hreads.unique hc, hfiles, hentropy⟩,
      fun hnone => absurd ⟨_, hreads⟩ hnone, hbackup, hrun⟩
  · exact ⟨iff_of_false horigin (not_exists.2 hnone), fun c hc => absurd hc (hnone c),
      fun _ => fellBack_of_opened hopened hnone, hbackup, hrun⟩

/-- In a world without files a store says that its default is on file, and it is; a setting
changes what it says. -/
theorem origin_exact_of_bare :
    ∃ s w',
      start (Overlay.ofMembers []) (Path.ofText "softap.conf") (Path.ofText "template.txt")
        World.bare = .ok s w' ∧
      s.origin = .persisted ∧ Stored (Path.ofText "softap.conf") s.config w'.files ∧
      (Running.afterEvents ⟨s, w'⟩
        [.used Faults.none (.ask .localOnly), .used Faults.none (.ask (.set none))]).store.origin =
          .active := by
  have hrun : Ends (start (Overlay.ofMembers []) (Path.ofText "softap.conf")
      (Path.ofText "template.txt")) World.bare
      (fun s w' => s.origin = .persisted ∧ ((Running.history ⟨s, w'⟩
        [.used Faults.none (.ask .localOnly), .used Faults.none (.ask (.set none))]).any hasSet) =
          true) (fun _ _ => False) := by decide +kernel
  obtain ⟨s, w', hstart, horigin, hset⟩ := hrun.exists_ok
  obtain ⟨-, -, hfresh, -, hafter⟩ := origin_exact hstart
  have hmissing : World.bare.files.read (Path.ofText "softap.conf") =
      .error (.call .noEntry (Path.ofText "softap.conf")) := by decide
  have hnone : ¬ ∃ c, ReadsAs (Path.ofText "softap.conf") World.bare.files c := by
    rintro ⟨c, bytes, hread, -⟩
    cases hmissing.symm.trans hread
  have hfellBack := hfresh hnone
  refine ⟨s, w', hstart, horigin, hfellBack.stored horigin, ?_⟩
  rw [hafter, hset]
  rfl

/-- What is said holds for what was attempted: where a directory is missing before a `..` the
entry at the path may change though the default could not be written, and a sync that fails
does not keep a default from being on file. -/
theorem origin_of_unsettled_path_and_sync :
    (¬ ∀ (o : Overlay) (p template : Path) (w : World) (s : Store) (w' : World),
      start o p template w = .ok s w' → s.origin = .defaultGenerated →
      w'.files.entryAt? p = w.files.entryAt? p) ∧
    ¬ ∀ (o : Overlay) (p template : Path) (w : World) (s : Store) (w' : World),
      start o p template w = .ok s w' → s.origin ≠ .loaded →
      (w.faults.refuse .sync).isSome = true → s.origin = .defaultGenerated := by
  constructor
  · intro h
    have hrun : Ends (start (Overlay.ofMembers []) (Path.ofText "a/../a")
        (Path.ofText "template.txt")) World.bare
        (fun s w' => s.origin = .defaultGenerated ∧
          w'.files.entryAt? (Path.ofText "a/../a") ≠
            World.bare.files.entryAt? (Path.ofText "a/../a"))
        (fun _ _ => False) := by decide +kernel
    obtain ⟨s, w', hstart, horigin, hchanged⟩ := hrun.exists_ok
    exact hchanged (h _ _ _ _ _ _ hstart horigin)
  · intro h
    let w : World :=
      { World.bare with
        faults := { refuse := fun call => if call = .sync then some (.refused "no") else none } }
    have hrun : Ends (start (Overlay.ofMembers []) (Path.ofText "softap.conf")
        (Path.ofText "template.txt")) w (fun s _ => s.origin = .persisted)
        (fun _ _ => False) := by decide +kernel
    obtain ⟨s, w', hstart, horigin⟩ := hrun.exists_ok
    have hnot : s.origin ≠ .loaded := by
      rw [horigin]
      decide
    cases horigin.symm.trans (h _ _ _ w _ _ hstart hnot rfl)

end Store
end Hotspot
