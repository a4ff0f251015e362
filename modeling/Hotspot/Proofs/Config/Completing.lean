/-
# Storing, call by call

Storing a configuration is a chain of steps, each on what the step before left:

| step | fails |
| --- | --- |
| encode | if the configuration has no bytes |
| name the temporary file | if the path ends in no name, or cannot be handed over |
| make directories | if there is no room for them, or by a call |
| open, write, flush, change mode, rename | by a call |

It is done just where every step is (`store_eq_ok_iff`). The sync is no step of the chain,
and neither is the clean-up: what becomes of them is ignored.
-/

import Hotspot.Proofs.Config.Replacing

namespace Hotspot

variable {faults : Faults} {p temporary : Path} {fs fs' : FileSystem} {content : Bytes}

namespace FileSystem

/-- A call that does nothing succeeds just if it is not made to fail. -/
theorem guarded_pure_eq_ok {call : Call} {u : Unit} :
    guarded faults call (pure ()) fs = .ok u fs' ↔ faults.refuse call = none ∧ fs = fs' := by
  rw [guarded]
  cases faults.refuse call with
  | none =>
    constructor
    · intro h
      cases h
      exact ⟨rfl, rfl⟩
    · rintro ⟨-, rfl⟩
      rfl
  | some message =>
    constructor
    · intro h
      cases h
    · rintro ⟨h, -⟩
      cases h

/-- If its failure is ignored it always does. -/
theorem ignoring_guarded_pure_eq_ok {call : Call} {u : Unit} :
    ignoring (guarded faults call (pure ())) fs = .ok u fs' ↔ fs = fs' := by
  have hignored : ignoring (guarded faults call (pure ())) fs = .ok u fs := by
    rw [guarded]
    cases faults.refuse call <;> rfl
  rw [hignored]
  constructor
  · intro h
    cases h
    rfl
  · rintro rfl
    rfl

/-- A file is replaced where each call but the sync is made. -/
theorem replaceBy_eq_ok :
    replaceBy faults temporary p content fs = .ok () fs' ↔ ∃ opened filled closed,
      openEmpty faults temporary fs = .ok () opened ∧
      writeAll faults temporary content opened = .ok () filled ∧
      faults.refuse .flush = none ∧
      changeMode faults temporary privateMode filled = .ok () closed ∧
      rename faults temporary p closed = .ok () fs' := by
  rw [replaceBy, run_tryCatch_eq_ok fun _ _ => .bind .any fun _ _ _ => .throw trivial]
  simp only [run_bind_eq_ok, guarded_pure_eq_ok, ignoring_guarded_pure_eq_ok]
  constructor
  · rintro ⟨_, opened, hopen, _, filled, hfill, _, _, ⟨hflush, rfl⟩, _, _, rfl, _, closed, hmode,
      hrename⟩
    exact ⟨opened, filled, closed, hopen, hfill, hflush, hmode, hrename⟩
  · rintro ⟨opened, filled, closed, hopen, hfill, hflush, hmode, hrename⟩
    exact ⟨(), opened, hopen, (), filled, hfill, (), filled, ⟨hflush, rfl⟩, (), filled, rfl, (),
      closed, hmode, hrename⟩

end FileSystem

namespace Config

variable {c : Config}

/-- Every step of storing a configuration is done, one after the other. -/
inductive Completes (faults : Faults) (p : Path) (c : Config) (fs fs' : FileSystem) : Prop
  | steps {bytes : Bytes} {temporary : Path} {made opened filled closed : FileSystem} :
    c.encode = .ok bytes →
    p.addSuffix? FileSystem.temporarySuffix = some temporary →
    p.parent.nameFault? = none → temporary.nameFault? = none →
    ensureDirectories faults p.parent fs = .ok () made →
    FileSystem.openEmpty faults temporary made = .ok () opened →
    FileSystem.writeAll faults temporary bytes opened = .ok () filled →
    faults.refuse .flush = none →
    FileSystem.changeMode faults temporary FileSystem.privateMode filled = .ok () closed →
    FileSystem.rename faults temporary p closed = .ok () fs' →
    Completes faults p c fs fs'

/-- A path that has to be handed over is, just if no code point of it stands in the way. -/
theorem requireName_eq_ok {u : Unit} :
    requireName p fs = .ok u fs' ↔ p.nameFault? = none ∧ fs = fs' := by
  rw [requireName]
  cases p.nameFault? with
  | none =>
    constructor
    · intro h
      cases h
      exact ⟨rfl, rfl⟩
    · rintro ⟨-, rfl⟩
      rfl
  | some fault =>
    constructor
    · intro h
      cases h
    · rintro ⟨h, -⟩
      cases h

/-- Naming the failure of a call does not change its success. -/
theorem asWrite_eq_ok {calls : FileSystem.Calls Unit} {u : Unit} :
    asWrite calls fs = .ok u fs' ↔ calls fs = .ok u fs' := by
  rw [asWrite, EStateM.adaptExcept]
  cases calls fs with
  | ok a t => simp
  | error e t => simp

/-- **Storing is done just where every step of it is.** -/
theorem store_eq_ok_iff : store faults p c fs = .ok () fs' ↔ Completes faults p c fs fs' := by
  rw [store]
  constructor
  · cases hbytes : c.encode with
    | error e =>
      rintro ⟨⟩
    | ok bytes =>
      cases htemporary : p.addSuffix? FileSystem.temporarySuffix with
      | none =>
        rintro ⟨⟩
      | some temporary =>
        intro h
        obtain ⟨_, _, hrequire, h⟩ := run_bind_eq_ok.1 h
        obtain ⟨hparent, rfl⟩ := requireName_eq_ok.1 hrequire
        obtain ⟨_, made, hmade, h⟩ := run_bind_eq_ok.1 h
        obtain ⟨_, _, hrequire', h⟩ := run_bind_eq_ok.1 h
        obtain ⟨hname, rfl⟩ := requireName_eq_ok.1 hrequire'
        obtain ⟨opened, filled, closed, hopen, hfill, hflush, hmode, hrename⟩ :=
          FileSystem.replaceBy_eq_ok.1 (asWrite_eq_ok.1 h)
        exact .steps hbytes htemporary hparent hname hmade hopen hfill hflush hmode hrename
  · rintro ⟨hbytes, htemporary, hparent, hname, hmade, hopen, hfill, hflush, hmode, hrename⟩
    rw [hbytes]
    dsimp only
    rw [htemporary]
    refine run_bind_eq_ok.2 ⟨(), fs, requireName_eq_ok.2 ⟨hparent, rfl⟩, ?_⟩
    refine run_bind_eq_ok.2 ⟨(), _, hmade, ?_⟩
    refine run_bind_eq_ok.2 ⟨(), _, requireName_eq_ok.2 ⟨hname, rfl⟩, ?_⟩
    exact asWrite_eq_ok.2
      (FileSystem.replaceBy_eq_ok.2 ⟨_, _, _, hopen, hfill, hflush, hmode, hrename⟩)

/-! ## What keeps it from being done -/

/-- A configuration that has bytes is not stored at a path that can be handed over for one of
three reasons, the first that applies. -/
inductive Misses (faults : Faults) (p : Path) (fs : FileSystem) : WriteError → Prop
  | unnamed : p.name? = none → Misses faults p fs (.unnamed p)
  | room : p.name?.isSome = true → ¬ HasRoom faults p fs → Misses faults p fs .tooDeep
  | call (e : IoError) : p.name?.isSome = true → HasRoom faults p fs → Misses faults p fs (.io e)

/-- Storing what has bytes succeeds only at a path with a name and with room for it, and misses
for one of three reasons. -/
theorem ends_store_of_bytes (hfault : p.nameFault? = none) {bytes : Bytes}
    (hbytes : c.encode = .ok bytes) (faults : Faults) (fs : FileSystem) :
    Ends (store faults p c) fs (fun _ _ => p.name?.isSome = true ∧ HasRoom faults p fs)
      fun e _ => Misses faults p fs e := by
  cases hname : p.name? with
  | none =>
    have htemporary : p.addSuffix? FileSystem.temporarySuffix = none := by
      rw [Path.addSuffix?, hname]
      rfl
    rw [store, hbytes]
    dsimp only
    rw [htemporary]
    exact .throw (.unnamed hname)
  | some name =>
    have hname : p.name?.isSome = true := by rw [hname]; rfl
    obtain ⟨temporary, -, hstore⟩ := exists_temporary hname hfault
    rw [hstore, hbytes]
    refine .bind ((ends_ensureDirectories_parent faults p fs).mono (fun _ _ h => h) ?_)
      fun _ _ hroom => .adaptExcept (Ends.any.mono (fun _ _ _ => ⟨rfl, hroom⟩)
        fun e _ _ => .call e hname hroom)
    rintro e fs' (⟨rfl, hdeep, -⟩ | ⟨hroom, io, rfl⟩)
    · exact .room hname hdeep
    · exact .call io hname hroom

/-- What has no bytes is refused before any call is made. -/
theorem store_of_encode_error {refusal : EncodeError} (h : c.encode = .error refusal) :
    store faults p c fs = .error (.encode refusal) fs := by
  rw [store, h]
  rfl

/-- Storing fails for the encoding just where there is none. -/
theorem encode_of_store_error (hfault : p.nameFault? = none) {refusal : EncodeError}
    (h : store faults p c fs = .error (.encode refusal) fs') :
    c.encode = .error refusal := by
  cases hbytes : c.encode with
  | error e =>
    rw [store_of_encode_error hbytes] at h
    cases h
    rfl
  | ok bytes => cases (ends_store_of_bytes hfault hbytes faults fs).of_error h

end Config
end Hotspot
