/-
# Loading what is on file

A store that finds a file at its path whose bytes are read as a configuration starts
with that configuration. It writes nothing and draws nothing. If something else keeps
it from starting, an overlay or a template, it has not done so either.
-/

import Hotspot.Proofs.Store.Writing

namespace Hotspot

open Config (Stored)

variable {p template : Path} {fs : FileSystem} {c : Config} {o : Overlay} {w w' : World}
  {content : Bytes} {mode : Nat}

/-! ## Reading what is on file -/

/-- A file that is found is read, since its path could be handed over. -/
theorem FileSystem.read_of_entryAt? (h : fs.entryAt? p = some (.file content mode)) :
    fs.read p = .ok content := by
  rw [read, entry?_of_entryAt? h]

/-- What is loaded is what the bytes at the path are read as, unless the path has no file
name. -/
theorem Config.load_of_entryAt? (h : fs.entryAt? p = some (.file content mode))
    (hp : p.nameFault? = none) : load fs p = (decode content).mapError .decode := by
  rw [load, hp]
  dsimp only
  rw [FileSystem.read_of_entryAt? h]

/-- A configuration on file is read in its canonical form. -/
theorem Config.Stored.exists_decode (h : Stored p c fs) :
    ∃ bytes, fs.entryAt? p = some (.file bytes 0o600) ∧ decode bytes = .ok c.canon := by
  obtain ⟨bytes, hbytes, hentry⟩ := h
  exact ⟨bytes, hentry, decode_of_encode hbytes⟩

/-! ## Starting -/

namespace World

/-- Two worlds with the same files and random inputs. -/
def SameInputs (w w' : World) : Prop :=
  w'.files = w.files ∧ w'.entropy = w.entropy

/-- The log is no input. -/
theorem ignoresLog_sameInputs (w : World) : IgnoresLog w.SameInputs := fun _ _ h => h

end World

namespace Store

open World (Preserves SameInputs)

/-- A configuration that can be read is loaded, and nothing is drawn or written for it. -/
theorem ends_startConfig_of_entryAt? (h : w.files.entryAt? p = some (.file content mode))
    (hc : Config.decode content = .ok c) (o : Overlay) :
    Ends (startConfig o p) w (fun a w' => a = (c, .loaded) ∧ w.SameInputs w')
      (fun _ w' => w.SameInputs w') := by
  refine .get_bind ?_
  cases hp : p.nameFault? with
  | none =>
    rw [Config.load_of_entryAt? h hp, hc]
    exact World.ends_log_bind (.pure ⟨rfl, rfl, rfl⟩)
  | some fault =>
    rw [Config.load, hp]
    exact .throw ⟨rfl, rfl⟩

/-- **A store starts with what is on file**, and leaves it there even if it does not come to
run. -/
theorem ends_start_of_entryAt? (h : w.files.entryAt? p = some (.file content mode))
    (hc : Config.decode content = .ok c) (o : Overlay) (template : Path) :
    Ends (start o p template) w
      (fun s w' => s.path = p ∧ s.config = c ∧ s.origin = .loaded ∧ w.SameInputs w')
      (fun _ w' => w.SameInputs w') := by
  have hlog := World.ignoresLog_sameInputs w
  refine .bind (ends_startConfig_of_entryAt? h hc o) ?_
  rintro _ w₁ ⟨rfl, h₁⟩
  refine .bind (preserves_startChannels hlog o w₁ h₁) fun channels w₂ h₂ => ?_
  refine .bind (Preserves.orFail _ _ w₂ h₂) fun candidates w₃ h₃ => ?_
  refine .bind (preserves_startConcurrency hlog o template w₃ h₃) fun concurrency w₄ h₄ => ?_
  exact .pure ⟨rfl, rfl, rfl, h₄⟩

/-- So a store has in canonical form what was stored at its path. -/
theorem ends_start_of_stored (h : Stored p c w.files) (o : Overlay) (template : Path) :
    Ends (start o p template) w
      (fun s w' => s.path = p ∧ s.config = c.canon ∧ s.origin = .loaded ∧ w.SameInputs w')
      (fun _ w' => w.SameInputs w') := by
  obtain ⟨bytes, hentry, hdecode⟩ := h.exists_decode
  exact ends_start_of_entryAt? hentry hdecode o template

end Store
end Hotspot
