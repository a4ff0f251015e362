/-
# A configuration is stored, or it is not

At a path that can be handed over, a configuration whose numbers can be shown is
either stored or refused, and a refusal has one of four reasons (`Fails`):

| what fails | the error | what is changed by then |
| --- | --- | --- |
| the encoding | of the encoding | nothing |
| there is no room for the directories that the path lacks | too deep | nothing |
| making a directory | of a call | directories on the way |
| a call on the temporary file | of a call | directories on the way, the temporary file |

In the last case the temporary file is gone if it can be removed. Where the sync
fails and nothing else does the configuration is stored all the same.
-/

import Hotspot.Proofs.Config.Storing
import Hotspot.Proofs.FileSystem.Names

namespace Hotspot

/-- The same calls are made to fail, all but one. -/
def Faults.without (faults : Faults) (call : Call) : Faults :=
  { faults with refuse := fun other => if other = call then Option.none else faults.refuse other }

/-! ## The sync -/

namespace FileSystem

variable {faults : Faults} {temporary target : Path}

/-- Making a directory does not sync. -/
theorem makeDirectory_without_sync (place : Place) (again : Bool) :
    makeDirectory (faults.without .sync) place again = makeDirectory faults place again := rfl

/-- Looking for one does not. -/
theorem unlessDirectory_without_sync (place : Place) (e : IoError) :
    unlessDirectory (faults.without .sync) place e = unlessDirectory faults place e := rfl

/-- Nor does making the last one of a way. -/
theorem ensureLast_without_sync (place : Place) (again : Bool) :
    ensureLast (faults.without .sync) place again = ensureLast faults place again := rfl

/-- Nor does making all of a way. -/
theorem ensureDirectory_without_sync (place : Place) (way : List Place) :
    ensureDirectory (faults.without .sync) place way = ensureDirectory faults place way := by
  induction way generalizing place with
  | nil => rfl
  | cons next way ih =>
    simp only [ensureDirectory, makeDirectory_without_sync, ensureLast_without_sync,
      unlessDirectory_without_sync, ih]

/-- How many directories are missing does not depend on the sync. -/
theorem nesting_without_sync (place : Place) (way : List Place) :
    nesting (faults.without .sync) place way = nesting faults place way := by
  induction way generalizing place with
  | nil => rfl
  | cons next way ih =>
    have hlacks : lacksAbove (faults.without .sync) place = lacksAbove faults place := rfl
    rw [nesting, nesting, hlacks, ih]

/-- A call that does nothing can be ignored, whether or not it is made to fail. -/
theorem ignoring_guarded_pure (faults : Faults) (call : Call) :
    ignoring (guarded faults call (pure ())) = pure () := by
  rw [guarded]
  cases faults.refuse call <;> rfl

/-- A sync that fails is passed over, so the file is replaced in the same way. -/
theorem replaceBy_without_sync (content : Bytes) :
    replaceBy (faults.without .sync) temporary target content =
      replaceBy faults temporary target content := by
  rw [replaceBy, replaceBy, ignoring_guarded_pure, ignoring_guarded_pure]
  rfl

end FileSystem

namespace Config

open FileSystem (Frame)

variable {p temporary : Path} {c : Config} {fs fs' : FileSystem} {faults : Faults}

/-! ## The encoding -/

/-- A text is never refused for its digits. -/
theorem writeString_ne_unwritable {field other : Field} {t : Option Text} :
    writeString field t ≠ .error (.unwritable other) := by
  rw [writeString]
  split <;> simp

/-- Nor is a key. -/
theorem writeKey_ne_unwritable {k : KeyManagement} {key : Option Text} {field : Field} :
    writeKey k key ≠ .error (.unwritable field) := by
  cases k with
  | none => simp [writeKey]
  | _ => exact writeString_ne_unwritable

/-- Nor is a number that can be shown. -/
theorem writeInt_ne_unwritable {field other : Field} {i : Int} (h : writable i = true) :
    writeInt field i ≠ .error (.unwritable other) := by
  rw [writeInt, if_pos h]
  split <;> simp

/-- A number of 32 bits can be shown. -/
theorem writable_of_fitsInt32 {i : Int} (h : FitsInt32 i) : writable i = true := by
  have hten : i.natAbs < 10 ^ 10 := by
    rw [FitsInt32] at h
    omega
  have hlimit : 10 ≤ digitLimit := by decide
  rw [writable, decide_eq_true_iff]
  generalize digitLimit = n at hlimit ⊢
  exact Nat.lt_of_lt_of_le hten (Nat.pow_le_pow_right (by decide) hlimit)

/-- A configuration whose numbers can be shown is refused with a reason that can be shown. -/
theorem encode_ne_unwritable (hband : writable c.band = true)
    (hchannel : writable c.channel = true) (field : Field) :
    c.encode ≠ .error (.unwritable field) := by
  intro h
  rw [encode, bind_eq_error] at h
  rcases h with h | ⟨k, -, h⟩
  · cases hk : c.auth <;> simp [hk, Except.mapError] at h
  rcases bind_eq_error.1 h with h | ⟨ssid, -, h⟩
  · exact writeString_ne_unwritable h
  rcases bind_eq_error.1 h with h | ⟨band, -, h⟩
  · exact writeInt_ne_unwritable hband h
  rcases bind_eq_error.1 h with h | ⟨channel, -, h⟩
  · exact writeInt_ne_unwritable hchannel h
  rcases bind_eq_error.1 h with h | ⟨key, -, h⟩
  · exact writeKey_ne_unwritable h
  · cases h

/-! ## Room for the directories -/

/-- There is room for the directories that have to be made above a path, one inside the
other. -/
def HasRoom (faults : Faults) (p : Path) (fs : FileSystem) : Prop :=
  faults.hasRoomFor
    (FileSystem.nesting faults (fs.placesAlong p.parent).1 (fs.placesAlong p.parent).2) = true

instance (faults : Faults) (p : Path) (fs : FileSystem) : Decidable (HasRoom faults p fs) :=
  inferInstanceAs (Decidable (_ = true))

/-- Where there is room for a thousand directories there is none for a file that is 1200
directories below an empty one. -/
theorem exists_not_hasRoom : ∃ p : Path, p.name?.isSome = true ∧ p.nameFault? = none ∧
    ¬ HasRoom { room := some 1000 } p .bare :=
  ⟨⟨.here, List.replicate 1200 [0x64] ++ [[0x63]]⟩, by decide +kernel, by decide +kernel,
    by decide +kernel⟩

/-- Directories are refused for want of room, and then none is made, or for a call. -/
theorem ends_ensureDirectories_parent (faults : Faults) (p : Path) (fs : FileSystem) :
    Ends (ensureDirectories faults p.parent) fs (fun _ _ => HasRoom faults p fs)
      (fun e fs' => (e = .tooDeep ∧ ¬ HasRoom faults p fs ∧ fs' = fs) ∨
        HasRoom faults p fs ∧ ∃ io, e = .io io) := by
  refine .get_bind ?_
  dsimp only
  split
  · next hdeep =>
    rw [Bool.not_eq_true'] at hdeep
    have hroom : ¬ HasRoom faults p fs := ne_true_of_eq_false hdeep
    exact .bind (Q := fun _ _ => False) (.throw (.inl ⟨rfl, hroom, rfl⟩)) nofun
  · next hdeep =>
    have hroom : HasRoom faults p fs := by
      rwa [Bool.not_eq_true', Bool.not_eq_false] at hdeep
    refine .bind (Q := fun _ _ => True) ?_ fun _ _ _ => .pure hroom
    exact .adaptExcept (Ends.any.mono (fun _ _ h => h) fun e _ _ => .inr ⟨hroom, e, rfl⟩)

/-! ## Storing -/

/-- The suffix of the temporary file may stand in any name. -/
theorem canStand_temporarySuffix : ∀ c ∈ FileSystem.temporarySuffix, Path.CanStand c := by
  have hletters : FileSystem.temporarySuffix = [0x2E, 0x74, 0x6D, 0x70] := by decide
  rw [hletters]
  simp only [List.forall_mem_cons]
  exact ⟨by decide, by decide, by decide, by decide, nofun⟩

/-- What is left of storing at a path that can be handed over. -/
theorem exists_temporary (hname : p.name?.isSome = true) (hfault : p.nameFault? = none) :
    ∃ temporary, p.addSuffix? FileSystem.temporarySuffix = some temporary ∧
      ∀ faults c, store faults p c =
        (match c.encode with
        | .error e => throw (.encode e)
        | .ok bytes => do
          ensureDirectories faults p.parent
          asWrite (FileSystem.replaceBy faults temporary p bytes)) := by
  obtain ⟨name, hname⟩ := Option.isSome_iff_exists.1 hname
  have htemporary : p.addSuffix? FileSystem.temporarySuffix =
      some { p with names := p.names.dropLast ++ [name ++ FileSystem.temporarySuffix] } := by
    rw [Path.addSuffix?, hname]
    rfl
  refine ⟨_, htemporary, fun faults c => ?_⟩
  rw [store, htemporary]
  dsimp only
  rw [requireName, requireName, Path.nameFault?_parent hfault,
    Path.nameFault?_addSuffix canStand_temporarySuffix hfault htemporary]
  rfl

/-- Without room no directory is made, and storing fails for that. -/
theorem store_of_not_hasRoom (hname : p.name?.isSome = true) (hfault : p.nameFault? = none)
    {bytes : Bytes} (hbytes : c.encode = .ok bytes) (h : ¬ HasRoom faults p fs) :
    store faults p c fs = .error .tooDeep fs := by
  obtain ⟨temporary, -, hstore⟩ := exists_temporary hname hfault
  have hdeep : Ends (store faults p c) fs (fun _ _ => False)
      fun e fs' => e = .tooDeep ∧ fs' = fs := by
    rw [hstore, hbytes]
    refine .bind ((ends_ensureDirectories_parent faults p fs).mono (fun _ _ => h) ?_)
      fun _ _ h => h.elim
    rintro e fs' (⟨he, -, hsame⟩ | ⟨hroom, -⟩)
    · exact ⟨he, hsame⟩
    · exact absurd hroom h
  cases hresult : store faults p c fs with
  | ok _ fs' => exact (hdeep.of_ok hresult).elim
  | error e fs' =>
    obtain ⟨rfl, rfl⟩ := hdeep.of_error hresult
    rfl

/-- How storing a configuration fails, and what it leaves. -/
inductive Fails (faults : Faults) (p temporary : Path) (c : Config) (fs : FileSystem) :
    WriteError → FileSystem → Prop
  | encoding {e : EncodeError} : c.encode = .error e → (∀ field, e ≠ .unwritable field) →
      Fails faults p temporary c fs (.encode e) fs
  | room {bytes : Bytes} : c.encode = .ok bytes → ¬ HasRoom faults p fs →
      Fails faults p temporary c fs .tooDeep fs
  | directories {bytes : Bytes} {e : IoError} {fs' : FileSystem} :
      c.encode = .ok bytes → ensureDirectories faults p.parent fs = .error (.io e) fs' →
      Fails faults p temporary c fs (.io e) fs'
  | replacement {bytes : Bytes} {e : IoError} {fs₁ fs' : FileSystem} :
      c.encode = .ok bytes → ensureDirectories faults p.parent fs = .ok () fs₁ →
      FileSystem.replaceBy faults temporary p bytes fs₁ = .error e fs' →
      FileSystem.Cleared faults temporary fs' →
      Fails faults p temporary c fs (.io e) fs'

/-- A sync that fails is passed over. Storing a configuration ends in the same way, whether
or not it does. -/
theorem store_without_sync (faults : Faults) (p : Path) (c : Config) :
    store (faults.without .sync) p c = store faults p c := by
  have hroom (n : Nat) : (faults.without .sync).hasRoomFor n = faults.hasRoomFor n := rfl
  simp only [store, ensureDirectories, FileSystem.ensureDirectory_without_sync,
    FileSystem.nesting_without_sync, hroom, FileSystem.replaceBy_without_sync]

/-- Storing changes the file, its temporary file and directories on the way. It fails
without touching the file, for a reason of the four. -/
theorem ends_store_of_hasName (hname : p.name?.isSome = true) (hfault : p.nameFault? = none)
    (hband : writable c.band = true) (hchannel : writable c.channel = true) (faults : Faults)
    (fs : FileSystem) :
    ∃ temporary, p.addSuffix? FileSystem.temporarySuffix = some temporary ∧
      Ends (store faults p c) fs
        (fun _ fs' => Stored p c fs' ∧ fs'.entryAt? temporary = none ∧
          Frame ((fs.startOf p).OnWay p.parent.names)
            (fun l => l = fs.target temporary ∨ l = fs.target p) fs fs')
        (fun e fs' => Fails faults p temporary c fs e fs' ∧
          Frame ((fs.startOf p).OnWay p.parent.names) (· = fs.target temporary) fs fs') := by
  obtain ⟨temporary, htemporary, hstore⟩ := exists_temporary hname hfault
  have hne := FileSystem.target_addSuffix?_ne fs htemporary
  refine ⟨temporary, htemporary, ?_⟩
  rw [hstore]
  split
  · next e he =>
    refine .throw ⟨.encoding he ?_, .refl ..⟩
    rintro field rfl
    exact encode_ne_unwritable hband hchannel field he
  · next bytes hbytes =>
    let Changed := Frame ((fs.startOf p).OnWay p.parent.names) (· = fs.target temporary) fs
    have hframe : Ends (ensureDirectories faults p.parent) fs (fun _ => Changed) fun _ => Changed :=
      FileSystem.ends_ensureDirectories faults p.parent
    have hmade := hframe.and (.and .result (ends_ensureDirectories_parent faults p fs))
    refine .bind (hmade.mono (fun _ _ h => h) ?_) ?_
    · rintro e fs' ⟨hframe, hresult, ⟨rfl, hroom, rfl⟩ | ⟨-, io, rfl⟩⟩
      · exact ⟨.room hbytes hroom, hframe⟩
      · exact ⟨.directories hbytes hresult, hframe⟩
    · rintro ⟨⟩ fs₁ ⟨h₁, hresult, -⟩
      have hreplace := @FileSystem.ends_replaceBy fs₁ ((fs.startOf p).OnWay p.parent.names) p faults
        bytes temporary (by rwa [h₁.target, h₁.target])
      rw [h₁.target, h₁.target] at hreplace
      have hboth := h₁.mono (fun _ h => h) fun l (hl : l = _) => Or.inl (b := l = fs.target p) hl
      refine .adaptExcept ((hreplace.and .result).mono ?_ ?_)
      · rintro - fs' ⟨⟨h₂, hgone, he⟩, -⟩
        exact ⟨⟨bytes, hbytes, he⟩, hgone, hboth.trans h₂⟩
      · rintro e fs' ⟨⟨h₂, hcleared⟩, herror⟩
        exact ⟨.replacement hbytes hresult herror hcleared, h₁.trans h₂⟩

/-- **Storing is all or nothing, whichever calls fail.** At a path that can be handed over,
for a configuration whose numbers can be shown:

* it is done: the configuration is on file for its owner alone, and there is no temporary
  file;
* or it fails for one of the four reasons, and what is found at the path is what was found
  there before, as long as the path is settled or something was found.

All else stays as it was, but for the temporary file and directories made on the way, and
it makes no difference whether the sync fails. -/
theorem store_all_or_nothing (hname : p.name?.isSome = true) (hfault : p.nameFault? = none)
    (hband : writable c.band = true) (hchannel : writable c.channel = true) (faults : Faults)
    (fs : FileSystem) :
    ∃ temporary, p.addSuffix? FileSystem.temporarySuffix = some temporary ∧
      Ends (store faults p c) fs
        (fun _ fs' => Stored p c fs' ∧ fs'.entryAt? temporary = none ∧
          Frame ((fs.startOf p).OnWay p.parent.names)
            (fun l => l = fs.target temporary ∨ l = fs.target p) fs fs')
        (fun e fs' => Fails faults p temporary c fs e fs' ∧
          (fs.Settled p ∨ (fs.entryAt? p).isSome → fs'.entryAt? p = fs.entryAt? p) ∧
          Frame ((fs.startOf p).OnWay p.parent.names) (· = fs.target temporary) fs fs') ∧
      store (faults.without .sync) p c fs = store faults p c fs := by
  obtain ⟨temporary, htemporary, hstore⟩ :=
    ends_store_of_hasName hname hfault hband hchannel faults fs
  have hne := FileSystem.target_addSuffix?_ne fs htemporary
  have hsettled : fs.Settled p ∨ (fs.entryAt? p).isSome → fs.Settled p := by
    rintro (hs | hs)
    · exact hs
    · obtain ⟨entry, hentry⟩ := Option.isSome_iff_exists.1 hs
      exact FileSystem.settled_of_entryAt? hentry
  refine ⟨temporary, htemporary, hstore.mono (fun _ _ h => h) ?_, ?_⟩
  · rintro e fs' ⟨hfails, hframe⟩
    exact ⟨hfails, fun hs => FileSystem.entryAt?_eq_of_frame (hsettled hs) hframe hne.symm, hframe⟩
  · rw [store_without_sync]

/-- If the renaming fails, the old file is there. -/
theorem old_entry_of_failing_rename :
    let fs : FileSystem := {
      workingDirectory := .root
      entries := [(.ofNames [Path.bytes "softap.conf"], .file [0x00] 0o644)] }
    let faults : Faults :=
      { refuse := fun call => if call = .rename then some (.refused "no") else none }
    writable 0 = true ∧
      ∃ e fs', store faults (Path.ofText "softap.conf") { ssid := some "net" } fs = .error e fs' ∧
        fs'.entryAt? (Path.ofText "softap.conf") = some (.file [0x00] 0o644) := by
  intro fs faults
  have hzero : writable 0 = true := writable_of_fitsInt32 (by decide)
  obtain ⟨temporary, -, hends, -⟩ := store_all_or_nothing (p := Path.ofText "softap.conf")
    (c := { ssid := some "net" }) (by decide) (by decide) hzero hzero faults fs
  have hfails : Ends (store faults (Path.ofText "softap.conf") { ssid := some "net" }) fs
      (fun _ _ => False) (fun _ _ => True) := by decide
  have hbefore : fs.entryAt? (Path.ofText "softap.conf") = some (.file [0x00] 0o644) := by decide
  cases hstore : store faults (Path.ofText "softap.conf") { ssid := some "net" } fs with
  | ok _ fs' => exact (hfails.of_ok hstore).elim
  | error e fs' =>
    obtain ⟨-, hsame, -⟩ := hends.of_error hstore
    exact ⟨hzero, e, fs', rfl, (hsame (.inr (by rw [hbefore]; rfl))).trans hbefore⟩

/-- Where a directory is missing before a `..`, a path may lead to something after a failure
that led nowhere before; and where there is no room for the directories that are missing,
storing fails for no call. -/
theorem entry_and_error_of_store :
    (¬ ∀ (p : Path) (c : Config) (fs : FileSystem), p.name?.isSome = true →
      p.nameFault? = none → writable c.band = true → writable c.channel = true →
      Ends (store Faults.none p c) fs (fun _ _ => True)
        (fun _ fs' => fs'.entryAt? p = fs.entryAt? p)) ∧
    ¬ ∀ (faults : Faults) (p : Path) (c : Config) (fs : FileSystem),
      p.name?.isSome = true → p.nameFault? = none → writable c.band = true →
      writable c.channel = true →
      Ends (store faults p c) fs (fun _ _ => True)
        (fun e _ => (∃ refusal, e = .encode refusal) ∨ ∃ io, e = .io io) := by
  have hzero : writable 0 = true := writable_of_fitsInt32 (by decide)
  constructor
  · intro h
    have hsame := h (Path.ofText "a/../a") { ssid := some "net" } .bare (by decide)
      (by decide) hzero hzero
    revert hsame
    decide
  · intro h
    obtain ⟨deep, hname, hfault, hroom⟩ := exists_not_hasRoom
    obtain ⟨bytes, hbytes⟩ : ∃ bytes, encode { ssid := some "net" } = .ok bytes := ⟨_, rfl⟩
    have hstore := store_of_not_hasRoom hname hfault hbytes hroom
    have hends := h { room := some 1000 } deep { ssid := some "net" } .bare hname hfault
      hzero hzero
    rcases hends.of_error hstore with ⟨refusal, h⟩ | ⟨io, h⟩
    · cases h
    · cases h

end Config
end Hotspot
