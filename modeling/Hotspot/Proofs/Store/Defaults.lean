/-
# The configurations that are made up

A configuration is made up from a template, a number of four digits and a UUID. Its name has
the template, an underscore and the digits, so five bytes more than the template, and its key
has twelve digits, whatever the UUID. What a check finds is therefore known from the template
alone (`templateViolation`):

| template | found |
| --- | --- |
| of more than 27 bytes | `ssidLength` |
| shorter, with a surrogate | `malformedSsid` |
| any other, an empty one too | nothing |

An acceptable default is read from its bytes as it was made up, since it is of a protected
network and has no place in a list of them. A store tells whether it could write the default
that it fell back on (`startOrigin`); if so, every store that starts there later has it
(`acceptance_of_generated`). A configuration for one session is checked in the same way, but
it has a place in a list, and it is never written.
-/

import Hotspot.Proofs.Config.Rules
import Hotspot.Proofs.Config.Storable
import Hotspot.Proofs.Store.Restart

namespace Hotspot

variable {template : Text} {suffix : Int} {u : Uuid} {networkId : Int}

namespace Config

/-! ## What a check finds -/

/-- What a check finds wrong with a configuration of a template: a name has five bytes more. -/
def templateViolation (template : Text) : Option Violation :=
  if 27 < (Utf8.encode template).length then
    some (.ssidLength ((Utf8.encode template).length + 5))
  else if ∃ x ∈ template, x.isSurrogate = true then some .malformedSsid
  else none

/-- What a template leads to, without the bounds of the name: five characters are added to
it. -/
theorem templateViolation_eq (template : Text) : templateViolation template =
    if 27 < Utf8.size template then some (.ssidLength (Utf8.size template + 5))
    else if template.hasSurrogate then some .malformedSsid else none := by
  rw [templateViolation, Utf8.length_encode]
  simp only [exists_isSurrogate_iff]

/-- A name that is not empty is checked for its size first and for surrogates then. -/
theorem checkSsid_of_ne_nil {name : Text} (h : name ≠ []) : checkSsid (some name) =
    if Utf8.size name < ssidMin ∨ ssidMax < Utf8.size name then
      some (.ssidLength (Utf8.size name))
    else if name.hasSurrogate then some .malformedSsid else none := by
  cases name with
  | nil => exact absurd rfl h
  | cons x name => rfl

/-- **What a check finds is known from the template**, whatever the number and the UUID. -/
theorem check_ofDraws_eq (hmin : suffixMin ≤ suffix) (hmax : suffix ≤ suffixMax) :
    (ofDraws template networkId suffix u).check = templateViolation template := by
  obtain ⟨hsize, hsurrogate⟩ := @size_withSuffix template suffix hmin hmax
  have hne : template ++ Text.ofString "_" ++ Text.ofInt suffix ≠ [] := by
    intro hnil
    rw [hnil] at hsize
    cases hsize
  have hlong : Utf8.size template + 5 < ssidMin ∨ ssidMax < Utf8.size template + 5 ↔
      27 < Utf8.size template := by
    rw [ssidMin, ssidMax]
    omega
  have hname : (ofDraws template networkId suffix u).ssid =
      some (template ++ Text.ofString "_" ++ Text.ofInt suffix) := rfl
  rw [check, checkSecurity_ofDraws, Option.or_none, hname, checkSsid_of_ne_nil hne, hsize,
    hsurrogate, templateViolation_eq]
  exact if_congr hlong rfl rfl

/-- An acceptable default is read from its bytes as it is. -/
theorem canon_default (h : (ofDraws template noNetworkId suffix u).check = none) :
    (ofDraws template noNetworkId suffix u).canon = ofDraws template noNetworkId suffix u :=
  canon_eq_self h (fun hopen => absurd hopen nofun) rfl

/-- A default is of a protected network and has no band or channel of its own. -/
theorem exists_encode_default (h : (ofDraws template noNetworkId suffix u).check = none) :
    ∃ bytes, (ofDraws template noNetworkId suffix u).encode = .ok bytes := by
  have hname := length_ssid_of_check h
  have hkey := length_key_of_check h
  have hzero : FitsInt32 0 := by decide
  exact exists_encode.2 ⟨.wpa2Psk, rfl, by omega, hzero, hzero, fun _ => by omega⟩

end Config

namespace Store

open Config (Stored generateDefault generateLocalOnly templateViolation)

variable {o : Overlay} {p : Path} {w w' : World} {s : Store} {e : Entropy}

/-! ## What a start leaves on file -/

/-- Where a store says that the configuration comes from that it starts with. -/
def startOrigin (p : Path) (w : World) (c : Config) : Origin :=
  match Config.load w.files p with
  | .ok _ => .loaded
  | .error _ => if w.canWrite p c then .persisted else .defaultGenerated

/-- Falling back says that the default is on file just if it could be written. -/
theorem ends_fallBack_origin (o : Overlay) (p : Path) (w : World) :
    Ends (fallBack o p) w
      (fun a _ => a.2 = if w.canWrite p a.1 then .persisted else .defaultGenerated)
      fun _ _ => True := by
  refine .bind ((World.ends_drawFrom _ _ w).mono (fun _ _ h => h.2) fun _ _ _ => trivial) ?_
  rintro c _ ⟨entropy, rfl⟩
  have hsave := ends_save p .init c { w with entropy }
  refine .bind (hsave.mono (fun _ _ h => h.1) fun _ _ _ => trivial) ?_
  rintro written w₂ hwritten
  have hcan : w.canWrite p c = written := hwritten.symm
  cases written with
  | true => exact .pure (if_pos hcan).symm
  | false => exact .pure (if_neg (ne_true_of_eq_false hcan)).symm

/-- A configuration that is loaded says so, and else falling back decides. -/
theorem ends_startConfig_origin (o : Overlay) (p : Path) (w : World) :
    Ends (startConfig o p) w (fun a _ => a.2 = startOrigin p w a.1) fun _ _ => True := by
  refine .get_bind ?_
  split
  · next c hload =>
    refine World.ends_log_bind (.pure ?_)
    rw [startOrigin, hload]
  · next e hload =>
    refine World.ends_orFail_bind (fun _ => trivial) fun ⟨kind, detail⟩ _ =>
      World.ends_log_bind ?_
    have hfallBack := ends_fallBack_origin o p
      { w with records := w.records ++ [fallbackRecord p kind detail] }
    refine hfallBack.mono (fun a _ h => ?_) fun _ _ h => h
    rw [startOrigin, hload]
    exact h

/-- **A store tells where its configuration comes from**: from the file at its path, or else
from the template, and then whether it could be written. -/
theorem ends_start_origin (o : Overlay) (p template : Path) (w : World) :
    Ends (start o p template) w (fun s _ => s.origin = startOrigin p w s.config)
      fun _ _ => True := by
  refine .bind (ends_startConfig_origin o p w) fun a w₁ ha => ?_
  refine .bind .any fun channels w₂ _ => ?_
  refine .bind .any fun candidates w₃ _ => ?_
  refine .bind .any fun concurrency w₄ _ => ?_
  exact .pure ha

/-- If it says that the default is on file the ledger has it on file. -/
theorem onFile_of_persisted {l : Ledger} (hl : Ledger.opening o p w = some l)
    (h : startOrigin p w l.active = .persisted) : l.onFile = some l.active := by
  rw [Ledger.opening] at hl
  rw [startOrigin] at h
  cases hload : Config.load w.files p with
  | ok c =>
    rw [hload] at h
    cases h
  | error e =>
    rw [hload] at hl h
    obtain ⟨c, -, rfl⟩ := Option.map_eq_some_iff.1 hl
    by_cases hcan : w.canWrite p c = true
    · exact if_pos hcan
    · cases (if_neg hcan).symm.trans h

/-- A store that says that its configuration is on file has made it up and left it there. -/
theorem stored_of_persisted {template : Path} (hstart : start o p template w = .ok s w')
    (horigin : s.origin = .persisted) :
    w.drawnFrom? o.template? generateDefault = some s.config ∧ Stored p s.config w'.files := by
  obtain ⟨l, hl, -, -, hactive, hholds⟩ := (ends_start o p template w).of_ok hstart
  have hsays := (ends_start_origin o p template w).of_ok hstart
  rw [horigin, hactive] at hsays
  have honFile := onFile_of_persisted hl hsays.symm
  rw [honFile] at hholds
  rw [hactive]
  exact ⟨Ledger.drawn?_of_onFile hl honFile, hholds⟩

/-! ## What a template decides -/

/-- **A template decides whether what is made up from it is acceptable.** Let the next number
have four digits and the next UUID be any. Then a default and a configuration for one session
are made up, and a check finds in either what is found for the template: a name out of range if
the template takes more than 27 bytes, else a malformed one if it has a surrogate, else nothing.

An acceptable default has bytes, and they are read as it is. Where it is on file, every store
that starts there has it, whatever started in between, and leaves the files as they were. And a
store that starts with those draws and says that its configuration is on file has that default,
and has left it there. -/
theorem acceptance_of_generated (hsuffix : e.suffix e.suffixesDrawn = .ok suffix)
    (hmin : 1000 ≤ suffix) (hmax : suffix ≤ 9999) (huuid : e.uuid e.uuidsDrawn = .ok u)
    (template : Text) :
    ∃ c e₁ session e₂, generateDefault template e = .ok c e₁ ∧
      generateLocalOnly template e = .ok session e₂ ∧
      c.check = templateViolation template ∧ session.check = templateViolation template ∧
      (c.check = none →
        (∃ bytes, c.encode = .ok bytes ∧ Config.decode bytes = .ok c) ∧
        ∀ (p : Path) (fs : FileSystem), Stored p c fs → ∀ v t v', Restarts p fs v t v' →
          t.config = c ∧ t.origin = .loaded ∧ v'.files = fs) ∧
      ∀ (o : Overlay) (p concurrency : Path) (w : World) (s : Store) (w' : World),
        w.entropy = e → o.template? = some template →
        start o p concurrency w = .ok s w' → s.origin = .persisted →
        s.config = c ∧ Stored p c w'.files := by
  obtain ⟨e₁, hdefault⟩ :=
    Entropy.generate_of_draws hsuffix huuid template Config.noNetworkId
  obtain ⟨e₂, hsession⟩ :=
    Entropy.generate_of_draws hsuffix huuid template Config.localOnlyNetworkId
  refine ⟨_, e₁, _, e₂, hdefault, hsession, Config.check_ofDraws_eq hmin hmax,
    Config.check_ofDraws_eq hmin hmax, fun hcheck => ?_, ?_⟩
  · have hcanon := Config.canon_default hcheck
    obtain ⟨bytes, hbytes⟩ := Config.exists_encode_default hcheck
    refine ⟨⟨bytes, hbytes, ?_⟩, fun p fs hstored v t v' hrestarts => ?_⟩
    · rw [Config.decode_of_encode hbytes, hcanon]
    · obtain ⟨hconfig, horigin, hfiles, -⟩ := hrestarts.of_stored hstored
      exact ⟨hconfig.trans hcanon, horigin, hfiles⟩
  · rintro o p concurrency w s w' rfl htemplate hstart horigin
    obtain ⟨hdrawn, hstored⟩ := stored_of_persisted hstart horigin
    rw [World.drawnFrom?, htemplate, Option.bind_some, World.drawn?.eq_def, generateDefault,
      hdefault] at hdrawn
    have hconfig : Config.ofDraws template Config.noNetworkId suffix u = s.config :=
      Option.some.inj hdrawn
    exact ⟨hconfig.symm, hconfig ▸ hstored⟩

/-- The template of an empty overlay: the default that a store falls back on is acceptable and
there after a restart. Nine euro signs are as long as a template may be. -/
theorem acceptance_of_generated_in_bare :
    ∃ s w',
      start (Overlay.ofMembers []) (Path.ofText "softap.conf") (Path.ofText "template.txt")
        World.bare = .ok s w' ∧ s.origin = .persisted ∧ s.config.check = none ∧
      (∃ v t v', Restarts (Path.ofText "softap.conf") w'.files v t v' ∧ t.config = s.config) ∧
      (∃ c e', generateDefault (List.replicate 9 0x20AC) World.bare.entropy = .ok c e' ∧
        c.check = none) ∧
      ∃ c e', generateLocalOnly (97 :: List.replicate 9 0x20AC) World.bare.entropy = .ok c e' ∧
        c.check = some (.ssidLength 33) := by
  let starting := start (Overlay.ofMembers []) (Path.ofText "softap.conf")
    (Path.ofText "template.txt")
  have hgenerated (template : Text) := @acceptance_of_generated 4242 0 World.bare.entropy rfl
    (by decide) (by decide) rfl template
  have hrun : Ends starting World.bare
      (fun s w' => s.origin = .persisted ∧
        Ends starting { World.bare with files := w'.files } (fun _ _ => True) fun _ _ => False)
      (fun _ _ => False) := by decide +kernel
  obtain ⟨s, w', hstart, horigin, hagain⟩ := hrun.exists_ok
  obtain ⟨t, v', hstart', -⟩ := hagain.exists_ok
  obtain ⟨c, -, -, -, -, -, hcheck, -, hdefault, hpersisted⟩ :=
    hgenerated "AndroidAP"
  obtain ⟨rfl, hstored⟩ := hpersisted _ _ _ _ _ _ rfl rfl hstart horigin
  have hnone : templateViolation "AndroidAP" = none := by
    rw [Config.templateViolation_eq]
    decide +kernel
  have hcheck' := hcheck.trans hnone
  have hrestarts : Restarts (Path.ofText "softap.conf") w'.files
      { World.bare with files := w'.files } t v' := .once rfl hstart'
  obtain ⟨c₁, e₁, -, -, hgenerate₁, -, hcheck₁, -⟩ := hgenerated (List.replicate 9 0x20AC)
  rw [Config.templateViolation_eq] at hcheck₁
  obtain ⟨-, -, c₂, e₂, -, hgenerate₂, -, hcheck₂, -⟩ := hgenerated (97 :: List.replicate 9 0x20AC)
  rw [Config.templateViolation_eq] at hcheck₂
  exact ⟨s, w', hstart, horigin, hcheck',
    ⟨_, t, v', hrestarts, ((hdefault hcheck').2 _ _ hstored _ _ _ hrestarts).1⟩,
    ⟨c₁, e₁, hgenerate₁, hcheck₁.trans (by decide)⟩,
    ⟨c₂, e₂, hgenerate₂, hcheck₂.trans (by decide)⟩⟩

end Store
end Hotspot
