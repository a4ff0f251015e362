/-
# Who is told that a configuration was set

The backup service is told once by each setting of a configuration, however it ends,
and by nothing else that is done with a store. So its notices count the settings.

A failed write is no failure of setting. What is (`SetFails`):

| what fails | configuration | files, origin |
| --- | --- | --- |
| a random input, where a fresh configuration is asked for | as before | as before |
| the name template cannot be shown, where a fresh one is asked for | as before | as before |
| there is no room for the directories that the path lacks | the new one | as before |
-/

import Hotspot.Proofs.Store.Opening
import Hotspot.Proofs.Store.Saving
import Hotspot.Proofs.Store.Uses

namespace Hotspot

open World (Preserves)

variable {p template : Path} {o : Overlay} {w : World} {c : Config}

namespace Store

variable {r : Running}

/-! ## Counting -/

/-- What has nothing to do with the random inputs is as it was after a draw. -/
theorem preserves_drawFrom {P : World → Prop} (hP : ∀ w entropy, P w → P { w with entropy })
    (template : Option Text) (generator : Text → EStateM Text Entropy Config) :
    Preserves P (World.drawFrom template generator) := by
  intro w hw
  refine (World.ends_drawFrom template generator w).mono ?_ ?_
  all_goals
    rintro _ _ ⟨-, entropy, rfl⟩
    exact hP w entropy hw

/-- A store that starts has the path it is given. -/
theorem ends_start_path (o : Overlay) (p template : Path) (w : World) :
    Ends (start o p template) w (fun s _ => s.path = p) (fun _ _ => True) :=
  .bind .any fun _ _ _ => .bind .any fun _ _ _ => .bind .any fun _ _ _ => .bind .any fun _ _ _ =>
    .pure rfl

/-- A default of a template that is too long for a file has no bytes. -/
theorem encode_ofDraws_of_long {t : Text} (h : 0xFFFF < (StoredString.encode t).length)
    (networkId suffix : Int) (u : Uuid) :
    ∃ e, (Config.ofDraws t networkId suffix u).encode = .error e := by
  cases hencode : (Config.ofDraws t networkId suffix u).encode with
  | error e => exact ⟨e, rfl⟩
  | ok bytes =>
    obtain ⟨k, name, -, -, -, -, hname, -⟩ := Config.encode_eq_ok.1 hencode
    have hfits : (StoredString.encode (t ++ "_" ++ Text.ofInt suffix)).length ≤ 0xFFFF :=
      (Config.writeString_eq_ok.1 hname).1
    rw [List.append_assoc, StoredString.encode, List.flatMap_append, List.length_append] at hfits
    exact absurd (Nat.le_of_add_right_le hfits) (Nat.not_le.2 h)

/-- An overlay whose name template takes more bytes than a text on file may have. -/
def HasLongTemplate (o : Overlay) : Prop :=
  ∃ t, o.template? = some t ∧ 0xFFFF < (StoredString.encode t).length

/-- Where defaults have no bytes a store touches no file for want of a configuration. -/
theorem preserves_startConfig_of_long (h : HasLongTemplate o) (p : Path) (files : FileSystem)
    (faults : Faults) :
    Preserves (fun w => w.files = files ∧ w.faults = faults) (startConfig o p) := by
  obtain ⟨t, htemplate, hlong⟩ := h
  refine preserves_startConfig (fun _ _ h => h) (preserves_drawFrom (fun _ _ h => h) _ _) ?_
  intro c w hdrawn w' hw'
  rw [World.drawnFrom?, htemplate] at hdrawn
  obtain ⟨suffix, u, rfl⟩ := World.exists_ofDraws_of_drawn? hdrawn
  obtain ⟨e, hencode⟩ := encode_ofDraws_of_long hlong Config.noNetworkId suffix u
  rw [Ends, World.write, Config.store, hencode]
  exact hw'

/-- So many letters make such a name template. -/
theorem exists_long_template : ∃ o : Overlay, HasLongTemplate o ∧ o.IsListed ∧ o.IsWritable := by
  let letters : Text := List.replicate 0x10000 0x61
  have hlength : (StoredString.encode letters).length = 0x10000 := by
    rw [StoredString.encode, List.length_flatMap, List.map_replicate, List.sum_replicate_nat]
    rfl
  refine ⟨Overlay.ofMembers [(Overlay.templateName, .text letters)], ⟨letters, rfl, ?_⟩,
    ⟨rfl, rfl, rfl⟩, Overlay.isWritable_ofMembers (List.forall_mem_singleton.2 rfl)⟩
  rw [hlength]
  decide

/-- A default without bytes is not attempted to be written. -/
theorem succeeds_fallBack_of_long (h : HasLongTemplate o) (hdraws : w.entropy.NeverFails) :
    Succeeds (fallBack o p) w := by
  obtain ⟨t, htemplate, hlong⟩ := h
  obtain ⟨suffix, u, entropy, hdraw⟩ := World.exists_draw hdraws t
  obtain ⟨e, hencode⟩ := encode_ofDraws_of_long hlong Config.noNetworkId suffix u
  have hzero : writable 0 = true := Config.writable_of_fitsInt32 (by decide)
  obtain ⟨text, htext⟩ := Config.exists_report_of_encode
    (c := Config.ofDraws t Config.noNetworkId suffix u) hzero hzero hencode
  rw [fallBack, htemplate, Succeeds.bind_iff]
  refine ⟨_, _, hdraw, ?_⟩
  have hsave := ends_save_saved { w with entropy } p .init
    (Config.ofDraws t Config.noNetworkId suffix u)
  cases hsaved : save p .init (Config.ofDraws t Config.noNetworkId suffix u)
      { w with entropy } with
  | ok written w' =>
    refine Succeeds.bind_iff.2 ⟨written, w', hsaved, ?_⟩
    split
    · exact .pure
    · exact .pure
  | error failure w' =>
    obtain ⟨refusal, files, hstore, hreport⟩ := hsave.of_error hsaved
    cases hstore.symm.trans (Config.store_of_encode_error hencode)
    cases hreport.symm.trans htext

/-- So a store starts on any path that can be handed over. -/
theorem succeeds_startConfig_of_long (h : HasLongTemplate o) (hfault : p.nameFault? = none)
    (hdraws : w.entropy.NeverFails) : Succeeds (startConfig o p) w := by
  rw [startConfig, Succeeds.get_bind_iff]
  cases hload : Config.load w.files p with
  | ok c => exact ⟨_, _, rfl⟩
  | error e =>
    obtain ⟨⟨kind, detail⟩, hkind⟩ := Config.exists_kindDetail hfault hload
    dsimp only
    rw [hkind]
    exact @succeeds_fallBack_of_long p o
      { w with records := w.records ++ [fallbackRecord p kind detail] } h hdraws

/-- With such a name template a store starts on any path that can be handed over, in a world
without files, and then it makes none. -/
theorem exists_start_of_long (faults : Faults) : ∃ o : Overlay, ∀ p : Path, p.nameFault? = none →
    ∃ s w', start o p (Path.ofText "template.txt") { World.bare with faults } = .ok s w' ∧
      s.path = p ∧ w'.files = World.bare.files ∧ w'.faults = faults := by
  obtain ⟨o, hlong, hlisted, hwritable⟩ := exists_long_template
  refine ⟨o, fun p hfault => ?_⟩
  obtain ⟨a, w₁, hconfig⟩ :=
    @succeeds_startConfig_of_long p o { World.bare with faults } hlong hfault neverFails_bare
  have hkept := preserves_startConfig_of_long hlong p World.bare.files faults
  have hreadable : Concurrency.Readable w₁.files (Path.ofText "template.txt") := by
    rw [((hkept { World.bare with faults } ⟨rfl, rfl⟩).of_ok hconfig).1]
    have hfound : World.bare.files.isFile (Path.ofText "template.txt") = .ok false := by decide
    exact ⟨.inr (by decide), fun htrue => nomatch hfound.symm.trans htrue⟩
  obtain ⟨s, w', hstart⟩ := (succeeds_start hwritable).2 ⟨a, w₁, hconfig, hlisted, hreadable⟩
  exact ⟨s, w', hstart, (ends_start_path o p _ _).of_ok hstart,
    (preserves_start (fun _ _ h => h) hkept _ { World.bare with faults } ⟨rfl, rfl⟩).of_ok
      hstart⟩

end Store
end Hotspot
