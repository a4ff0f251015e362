/-
# Falling back on a default

Where no configuration can be loaded a default is made up and written. That it cannot
be written is logged as a rule, and the store starts with it all the same. The one
exception is a path above which there is no room for the directories that are missing
(`HasRoom`): the attempt ends the start. A default without bytes is not attempted.
-/

import Hotspot.Proofs.Config.Drawing
import Hotspot.Proofs.Config.Replacing
import Hotspot.Proofs.Store.Writing

namespace Hotspot

variable {α β : Type} {w : World} {o : Overlay} {p : Path}

/-! ## Drawing a default -/

/-- The random inputs never fail. -/
structure Entropy.NeverFails (e : Entropy) : Prop where
  suffix : ∀ n, ∃ i, e.suffix n = .ok i
  uuid : ∀ n, ∃ u, e.uuid n = .ok u

/-- A default is drawn where the random inputs do not fail. -/
theorem World.exists_draw (h : w.entropy.NeverFails) (template : Text) :
    ∃ suffix u entropy, draw (Config.generateDefault template) w =
      .ok (Config.ofDraws template Config.noNetworkId suffix u) { w with entropy } := by
  obtain ⟨suffix, hsuffix⟩ := h.suffix w.entropy.suffixesDrawn
  obtain ⟨u, huuid⟩ := h.uuid w.entropy.uuidsDrawn
  obtain ⟨entropy, hgenerate⟩ :=
    Entropy.generate_of_draws hsuffix huuid template Config.noNetworkId
  exact ⟨suffix, u, entropy, by rw [draw, Config.generateDefault, hgenerate]⟩

/-! ## Storing a default -/

namespace Config

variable {c : Config} {fs : FileSystem}

/-- A configuration whose numbers can be shown is refused with a report. -/
theorem exists_report_of_encode (hband : writable c.band = true)
    (hchannel : writable c.channel = true) {e : EncodeError} (h : c.encode = .error e) :
    ∃ text, Store.report (.encode e) = .ok text := by
  cases e with
  | unwritable field => exact absurd h (encode_ne_unwritable hband hchannel field)
  | _ => exact ⟨_, rfl⟩

/-- Where nothing can be loaded, the failure has a kind and a detail, unless it is that the
path cannot be handed over. -/
theorem exists_kindDetail (hfault : p.nameFault? = none) {e : LoadError}
    (h : load fs p = .error e) : ∃ told, e.kindDetail = .ok told := by
  rw [load, hfault] at h
  dsimp only at h
  cases hread : fs.read p with
  | error io =>
    rw [hread] at h
    cases h
    exact ⟨_, rfl⟩
  | ok bytes =>
    rw [hread] at h
    dsimp only at h
    cases hdecode : decode bytes with
    | ok c =>
      rw [hdecode] at h
      cases h
    | error e' =>
      rw [hdecode] at h
      cases h
      exact ⟨_, rfl⟩

/-- Where there is room, no failure to store keeps the store from starting. -/
theorem ends_store_of_hasRoom (hname : p.name?.isSome = true) (hfault : p.nameFault? = none)
    (hencode : ∀ e, c.encode = .error e → ∃ text, Store.report (.encode e) = .ok text)
    {faults : Faults} (hroom : ∀ bytes, c.encode = .ok bytes → HasRoom faults p fs) :
    Ends (store faults p c) fs (fun _ _ => True) fun e _ => ∃ text, Store.report e = .ok text := by
  obtain ⟨temporary, -, hstore⟩ := exists_temporary hname hfault
  rw [hstore]
  split
  · next e he => exact .throw (hencode e he)
  · next bytes hbytes =>
    refine .bind ((ends_ensureDirectories_parent faults p fs).mono (fun _ _ h => h) ?_) fun _ _ _ =>
      .adaptExcept (Ends.any.mono (fun _ _ h => h) fun e _ _ => ⟨e.report, rfl⟩)
    rintro e fs' (⟨-, hdeep, -⟩ | ⟨-, io, rfl⟩)
    · exact absurd (hroom bytes hbytes) hdeep
    · exact ⟨io.report, rfl⟩

end Config

/-! ## Starting with a default -/

namespace World

/-- A result succeeds together with what follows if there is a value to follow. -/
theorem succeeds_orFail_bind {ε : Type} {wrap : ε → Failure} {result : Except ε β}
    {f : β → Action α} :
    Succeeds (orFail wrap result >>= f) w ↔ ∃ b, result = .ok b ∧ Succeeds (f b) w := by
  cases result with
  | ok b =>
    constructor
    · exact fun h => ⟨b, rfl, h⟩
    · rintro ⟨_, h, hf⟩
      cases h
      exact hf
  | error e =>
    constructor
    · rintro ⟨_, _, h⟩
      cases h
    · rintro ⟨_, h, -⟩
      cases h

/-- And alone if there is a value. -/
theorem succeeds_orFail {ε : Type} {wrap : ε → Failure} {result : Except ε β} :
    Succeeds (orFail wrap result) w ↔ ∃ b, result = .ok b := by
  cases result with
  | ok b => exact iff_of_true ⟨b, w, rfl⟩ ⟨b, rfl⟩
  | error e =>
    refine iff_of_false ?_ ?_
    · rintro ⟨_, _, h⟩
      cases h
    · rintro ⟨_, h⟩
      cases h

end World

namespace Store

open World

/-- Too deep a path is no failed write: there is no report of it. -/
theorem save_of_not_hasRoom {c : Config} {bytes : Bytes} (hname : p.name?.isSome = true)
    (hfault : p.nameFault? = none) (hbytes : c.encode = .ok bytes)
    (h : ¬ Config.HasRoom w.faults p w.files) (op : Operation) :
    save p op c w = .error .tooDeep w := by
  have hstore := Config.store_of_not_hasRoom hname hfault hbytes h
  have hwrite : World.write p c w = .ok (some .tooDeep) w := by rw [World.write, hstore]
  show EStateM.bind (World.write p c) _ w = _
  rw [EStateM.bind, hwrite]
  rfl

/-- Saving a configuration whose numbers can be shown ends in a reply, unless it has bytes and there
is no room for them. -/
theorem succeeds_save {c : Config} (hname : p.name?.isSome = true) (hfault : p.nameFault? = none)
    (hband : writable c.band = true) (hchannel : writable c.channel = true) (op : Operation) :
    Succeeds (save p op c) w ↔
      ∀ bytes, c.encode = .ok bytes → Config.HasRoom w.faults p w.files := by
  constructor
  · intro h bytes hbytes
    by_contra hroom
    obtain ⟨_, _, hsave⟩ := h
    rw [save_of_not_hasRoom hname hfault hbytes hroom] at hsave
    cases hsave
  · intro hroom
    have hstore := Config.ends_store_of_hasRoom hname hfault
      (fun e he => Config.exists_report_of_encode hband hchannel he) hroom
    refine Succeeds.bind_iff.2 ?_
    cases hwrite : Config.store w.faults p c w.files with
    | ok _ files =>
      exact ⟨none, { w with files }, by rw [World.write, hwrite], _, _, rfl⟩
    | error e files =>
      obtain ⟨text, htext⟩ := hstore.of_error hwrite
      refine ⟨some e, { w with files }, by rw [World.write, hwrite], ?_⟩
      exact succeeds_orFail_bind.2 ⟨text, htext, _, _, rfl⟩

/-- A default can be made up and written, as far as it has bytes, if there is room. -/
theorem succeeds_fallBack (hname : p.name?.isSome = true) (hfault : p.nameFault? = none)
    (hdraws : w.entropy.NeverFails) (htemplate : o.template?.isSome = true) :
    Succeeds (fallBack o p) w ↔ ∀ c bytes,
      w.drawnFrom? o.template? Config.generateDefault = some c → c.encode = .ok bytes →
        Config.HasRoom w.faults p w.files := by
  obtain ⟨template, htemplate⟩ := Option.isSome_iff_exists.1 htemplate
  obtain ⟨suffix, u, entropy, hdraw⟩ := exists_draw hdraws template
  have hdraw : drawFrom o.template? Config.generateDefault w =
      .ok (Config.ofDraws template Config.noNetworkId suffix u) { w with entropy } := by
    rwa [htemplate]
  have hdrawn := ((ends_drawFrom _ _ w).of_ok hdraw).1
  have hzero : writable 0 = true := Config.writable_of_fitsInt32 (by decide)
  have hsave := @succeeds_save { w with entropy } p
    (Config.ofDraws template Config.noNetworkId suffix u) hname hfault hzero hzero .init
  have hforall : (∀ c bytes, w.drawnFrom? o.template? Config.generateDefault = some c →
      c.encode = .ok bytes → Config.HasRoom w.faults p w.files) ↔
      Succeeds (save p .init (Config.ofDraws template Config.noNetworkId suffix u))
        { w with entropy } := by
    rw [hsave]
    constructor
    · exact fun h bytes hbytes => h _ bytes hdrawn hbytes
    · intro h c bytes hc hbytes
      obtain rfl := Option.some.inj (hdrawn.symm.trans hc)
      exact h bytes hbytes
  rw [hforall, fallBack, Succeeds.bind_iff]
  constructor
  · rintro ⟨c, w₁, hc, h⟩
    rw [hdraw] at hc
    cases hc
    obtain ⟨written, w₂, hwritten, -⟩ := Succeeds.bind_iff.1 h
    exact ⟨written, w₂, hwritten⟩
  · rintro ⟨written, w₂, hwritten⟩
    refine ⟨_, _, hdraw, Succeeds.bind_iff.2 ⟨written, w₂, hwritten, ?_⟩⟩
    split
    · exact .pure
    · exact .pure

/-- A configuration is loaded, or a default is made up. -/
theorem succeeds_startConfig (hname : p.name?.isSome = true) (hfault : p.nameFault? = none)
    (hdraws : w.entropy.NeverFails) (htemplate : o.template?.isSome = true) :
    Succeeds (startConfig o p) w ↔ (∃ c, Config.load w.files p = .ok c) ∨
      ∀ c bytes, w.drawnFrom? o.template? Config.generateDefault = some c →
        c.encode = .ok bytes → Config.HasRoom w.faults p w.files := by
  rw [startConfig, Succeeds.get_bind_iff]
  cases hload : Config.load w.files p with
  | ok c => exact iff_of_true ⟨_, _, rfl⟩ (.inl ⟨c, rfl⟩)
  | error e =>
    obtain ⟨⟨kind, detail⟩, hkind⟩ := Config.exists_kindDetail hfault hload
    dsimp only
    rw [hkind]
    -- the record of the failure changes nothing that falling back reads
    refine Iff.trans ?_ (or_iff_right ?_).symm
    · exact @succeeds_fallBack { w with records := w.records ++ [fallbackRecord p kind detail] } o p
        hname hfault hdraws htemplate
    · rintro ⟨c, hc⟩
      cases hc

end Store
end Hotspot
