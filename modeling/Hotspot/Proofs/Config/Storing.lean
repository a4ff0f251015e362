/-
# A configuration on file, or the file as it was

Storing a configuration leaves its bytes at the path, for their owner alone. If
that fails, with whatever call, what is found at the path is what was found there
before (`Spares`), as long as the path is settled. It is if anything was there.

| path | before | after a failure |
| --- | --- | --- |
| `a/b` | anything | the same |
| `a/../b`, with `a` there | anything | the same |
| `a/../b`, with `a` missing | nothing | what is at `b` |
-/

import Hotspot.Proofs.Config.RoundTrip
import Hotspot.Proofs.FileSystem.Replacement

namespace Hotspot
namespace Config

open FileSystem (Frame)

variable {p : Path} {c : Config} {fs fs' fs'' : FileSystem}

/-- A configuration is on file: its bytes are at a path, for their owner alone. -/
def Stored (p : Path) (c : Config) (fs : FileSystem) : Prop :=
  ∃ bytes, c.encode = .ok bytes ∧ fs.entryAt? p = some (.file bytes 0o600)

/-- What is found at a settled path is what was found there before. -/
structure Spares (p : Path) (fs fs' : FileSystem) : Prop where
  settled : fs.Settled p → fs'.Settled p
  entryAt? : fs.Settled p → fs'.entryAt? p = fs.entryAt? p

namespace Spares

/-- Doing nothing spares every path. -/
theorem refl (p : Path) (fs : FileSystem) : Spares p fs fs := ⟨id, fun _ => rfl⟩

/-- What spares a path twice spares it. -/
theorem trans (h : Spares p fs fs') (h' : Spares p fs' fs'') : Spares p fs fs'' where
  settled hs := h'.settled (h.settled hs)
  entryAt? hs := (h'.entryAt? (h.settled hs)).trans (h.entryAt? hs)

/-- A path is spared by what makes directories above it and writes elsewhere. -/
theorem of_frame {written : Location → Prop}
    (hf : Frame ((fs.startOf p).OnWay p.parent.names) written fs fs')
    (hw : ¬ written (fs.target p)) : Spares p fs fs' where
  settled hs := hs.of_frame hf
  entryAt? hs := FileSystem.entryAt?_eq_of_frame hs hf hw

/-- A configuration on file stays on file. -/
theorem stored (h : Spares p fs fs') (hc : Stored p c fs) : Stored p c fs' := by
  obtain ⟨bytes, hbytes, he⟩ := hc
  refine ⟨bytes, hbytes, ?_⟩
  rw [h.entryAt? (FileSystem.settled_of_entryAt? he), he]

end Spares

/-- A path that cannot be handed over is refused before anything is changed. -/
theorem ends_requireName {Q : Unit → FileSystem → Prop} {E : WriteError → FileSystem → Prop}
    (hQ : Q () fs) (hE : ∀ fault, E (.name fault) fs) : Ends (requireName p) fs Q E := by
  rw [requireName]
  split
  · exact .throw (hE _)
  · exact .pure hQ

/-- **Storing is all or nothing.** Either the configuration is on file, or the path is
spared. -/
theorem ends_store (faults : Faults) (p : Path) (c : Config) (fs : FileSystem) :
    Ends (store faults p c) fs (fun _ fs' => Stored p c fs') (fun _ fs' => Spares p fs fs') := by
  rw [store]
  split
  · exact .throw (.refl p fs)
  · next bytes hbytes =>
    split
    · exact .throw (.refl p fs)
    · next temporary htemporary =>
      have hne := FileSystem.target_addSuffix?_ne fs htemporary
      refine .bind (Q := fun _ fs' => fs = fs')
        (ends_requireName rfl fun _ => .refl p fs) ?_
      rintro - _ rfl
      refine .bind (Q := fun _ fs' => Frame ((fs.startOf p).OnWay p.parent.names)
        (· = fs.target temporary) fs fs')
        (.mono (FileSystem.ends_ensureDirectories faults p.parent) (fun _ _ h => h)
          fun _ fs' h => .of_frame h hne.symm) fun _ fs₁ h₁ => ?_
      refine .bind (Q := fun _ fs' => fs₁ = fs')
        (ends_requireName rfl fun _ => .of_frame h₁ hne.symm) ?_
      rintro - _ rfl
      have hreplace := @FileSystem.ends_replaceBy fs₁ ((fs.startOf p).OnWay p.parent.names) p faults
        bytes temporary (by rwa [h₁.target, h₁.target])
      rw [h₁.target, h₁.target] at hreplace
      exact .adaptExcept (hreplace.mono
        (fun _ _ h₂ => ⟨bytes, hbytes, h₂.2.2⟩)
        fun _ _ h₂ => .of_frame (h₁.trans h₂.1) hne.symm)

end Config
end Hotspot
