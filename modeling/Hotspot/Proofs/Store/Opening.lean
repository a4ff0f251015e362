/-
# Opening a store

A store is opened on three files. What is wrong with one of them is logged and made
good as a rule; it keeps the store from opening in these cases alone:

| file | what is not made good |
| --- | --- |
| overlay | a number or a truth value where a list is wanted |
| overlay | values nested too deep, or a path that cannot be looked for |
| configuration | none to load, and no room for the directories that are missing |
| template | a number of too many digits, or a path that cannot be looked for |

A path that cannot be looked for has too many bytes, or a name that has. Numbers of too
many digits are in no overlay, since none is read.
-/

import Hotspot.CommandLine.Run
import Hotspot.Proofs.Concurrency.Directives
import Hotspot.Proofs.Json.Writable
import Hotspot.Proofs.Overlay.Channels
import Hotspot.Proofs.Store.FallingBack

namespace Hotspot

variable {α β : Type} {w : World} {o : Overlay} {p template : Path}

/-! ## Overlays -/

/-- A value that is read as a list: no number and no truth value. -/
def Json.isListed : Json → Bool
  | .bool _ | .int _ | .double _ => false
  | .null | .text _ | .array _ | .object _ => true

/-- Items that can be shown have texts. -/
theorem Json.exists_textsOf {items : List Json} (h : ∀ item ∈ items, item.isWritable = true) :
    ∃ ts, Json.textsOf items = .ok ts := by
  have hshown : ∃ ts, items.mapM Json.shown? = some ts := by
    induction items with
    | nil => exact ⟨[], rfl⟩
    | cons item items ih =>
      rw [List.forall_mem_cons] at h
      obtain ⟨t, ht⟩ := Json.exists_shown? h.1
      obtain ⟨ts, hts⟩ := ih h.2
      exact ⟨t :: ts, by rw [List.mapM_cons, ht, hts]; rfl⟩
  obtain ⟨ts, hts⟩ := hshown
  exact ⟨ts, by rw [Json.textsOf, hts]⟩

/-- So have the items of an array or an object, the names of which are texts. -/
theorem Json.exists_textsOf_items {j : Json} (h : j.isWritable = true) {items : List Json}
    (hitems : j.items = .ok items) : ∃ ts, Json.textsOf items = .ok ts := by
  refine Json.exists_textsOf ?_
  rw [Json.items.eq_def] at hitems
  split at hitems
  · cases hitems
    exact Json.areWritable_iff.1 h
  · cases hitems
    intro item hitem
    obtain ⟨m, -, rfl⟩ := List.mem_map.1 hitem
    rfl
  · cases hitems

/-- A value that is no number and no truth value is read as a list of texts. -/
theorem Overlay.exists_texts {j : Json} (h : j.isWritable = true) :
    (∃ ts, Overlay.texts j = .ok ts) ↔ j.isListed = true := by
  have htexts {items : List Json} (hitems : j.items = .ok items) :
      ∃ ts, (do Json.textsOf (← j.items.mapError ListError.notAList)) = .ok ts := by
    rw [hitems]
    exact Json.exists_textsOf_items h hitems
  cases j with
  | null | text => exact iff_of_true ⟨_, rfl⟩ rfl
  | array | object => exact iff_of_true (htexts rfl) rfl
  | bool | int | double =>
    refine iff_of_false ?_ Bool.false_ne_true
    rintro ⟨ts, hts⟩
    cases hts

/-- And as a channel list. -/
theorem Channels.exists_ofList {j : Json} (h : j.isWritable = true) :
    (∃ channels, Channels.ofList j = .ok channels) ↔ j.isListed = true := by
  have hchannels {items : List Json} (hitems : j.items = .ok items) :
      ∃ channels, (do
        let ts ← Json.textsOf items
        pure (some (Channels.ofTexts ts)) : Except ListError _) = .ok channels := by
    obtain ⟨ts, hts⟩ := Json.exists_textsOf_items h hitems
    exact ⟨_, by rw [hts]; rfl⟩
  cases j with
  | null => exact iff_of_true ⟨_, rfl⟩ rfl
  | text t => exact iff_of_true ⟨_, Channels.ofList_text t⟩ rfl
  | array | object => exact iff_of_true (hchannels rfl) rfl
  | bool | int | double =>
    refine iff_of_false ?_ Bool.false_ne_true
    rintro ⟨channels, hchannels⟩
    cases hchannels

/-- All that the members of an overlay hold can be shown. -/
def Overlay.IsWritable (o : Overlay) : Prop := ∀ m ∈ o.members, m.2.isWritable = true

/-- So every value of it can, also one that is not there and counts as null. -/
theorem Overlay.IsWritable.value {o : Overlay} (h : o.IsWritable) (name : Text) :
    (o.value name).isWritable = true := by
  rw [Overlay.value]
  cases hvalue : o.members.lookup (.text name) with
  | none => rfl
  | some j =>
    obtain ⟨before, after, heq, -⟩ := List.lookup_eq_some_iff.1 hvalue
    exact h (_, j) (heq ▸ List.mem_append_right _ List.mem_cons_self)

/-- Setting a member to what can be shown leaves members that can. -/
theorem Overlay.Members.isWritable_set {ms : Overlay.Members} {name : Overlay.Name} {j : Json}
    (hj : j.isWritable = true) (h : ∀ m ∈ ms, m.2.isWritable = true) :
    ∀ m ∈ Overlay.Members.set name j ms, m.2.isWritable = true := by
  induction ms with
  | nil => exact List.forall_mem_singleton.2 hj
  | cons m ms ih =>
    rw [List.forall_mem_cons] at h
    rw [Overlay.Members.set]
    split
    · exact List.forall_mem_cons.2 ⟨hj, h.2⟩
    · exact List.forall_mem_cons.2 ⟨h.1, ih h.2⟩

/-- So does setting many, by induction on them. -/
theorem Overlay.Members.isWritable_merge {ms : Overlay.Members} {other : Json.Members}
    (hother : ∀ m ∈ other, m.2.isWritable = true) (h : ∀ m ∈ ms, m.2.isWritable = true) :
    ∀ m ∈ ms.merge other, m.2.isWritable = true := by
  rw [Overlay.Members.merge]
  induction other generalizing ms with
  | nil => exact h
  | cons m other ih =>
    rw [List.forall_mem_cons] at hother
    exact ih hother.2 (isWritable_set hother.1 h)

/-- The standard members can be shown, and so can those over them. -/
theorem Overlay.isWritable_ofMembers {members : Json.Members}
    (h : ∀ m ∈ members, m.2.isWritable = true) : (Overlay.ofMembers members).IsWritable := by
  have hstandard : ∀ m ∈ Overlay.standardMembers, m.2.isWritable = true := by decide
  exact Members.isWritable_merge h (Members.isWritable_merge hstandard (List.forall_mem_nil _))

/-- The members that a value sets can be shown if it can. -/
theorem Overlay.areWritable_membersOf {j : Json} (h : j.isWritable = true) :
    ∀ m ∈ membersOf j, m.2.isWritable = true := by
  rw [membersOf.eq_def]
  split
  · exact Json.membersAreWritable_iff.1 h
  · exact List.forall_mem_nil _

/-- The value in an overlay file can be shown. -/
theorem Overlay.isWritable_of_fileValue {depth : Nat} {fs : FileSystem} {path : Path} {j : Json}
    (h : fileValue depth fs path = .ok j) : j.isWritable = true := by
  obtain ⟨bytes, -, h⟩ := bind_eq_ok.1 h
  obtain ⟨text, -, h⟩ := bind_eq_ok.1 h
  exact Json.isWritable_of_readWithin (mapError_eq_ok.1 h)

/-- All that is read of an overlay file can be shown. -/
theorem Overlay.isWritable_of_load {depth : Nat} {fs : FileSystem} {path : Path} {o : Overlay}
    {records : List Log.Record} (h : Overlay.load depth fs path = .ok (o, records)) :
    o.IsWritable := by
  have hstandard : (Overlay.ofMembers []).IsWritable :=
    Overlay.isWritable_ofMembers (List.forall_mem_nil _)
  rw [load] at h
  obtain ⟨found, -, h⟩ := bind_eq_ok.1 h
  cases found with
  | false =>
    cases h
    exact hstandard
  | true =>
    rw [if_pos rfl] at h
    split at h
    · next j hvalue =>
      cases h
      exact isWritable_ofMembers (areWritable_membersOf (isWritable_of_fileValue hvalue))
    · cases h
    · cases h
      exact hstandard

/-- Where no values are nested too deep, an overlay comes of every file that can be looked
for. -/
theorem Overlay.exists_load {depth : Nat} {fs : FileSystem} {path : Path}
    (hdeep : ∀ shape, Overlay.load depth fs path ≠ .error (.tooDeep shape)) :
    (∃ o records, Overlay.load depth fs path = .ok (o, records)) ↔ fs.CanLookFor path := by
  have hprobe : (∃ found, fs.exists? path = .ok found) ↔ fs.CanLookFor path :=
    FileSystem.exists_probe
  rw [← hprobe]
  rw [load] at hdeep ⊢
  cases hfound : fs.exists? path with
  | error e => simp [bind, Except.bind, Except.mapError]
  | ok found =>
    refine iff_of_true ?_ ⟨found, rfl⟩
    rw [hfound] at hdeep
    cases found with
    | false => exact ⟨_, _, rfl⟩
    | true =>
      simp only [Except.mapError, bind, Except.bind, if_true] at hdeep ⊢
      split
      · exact ⟨_, _, rfl⟩
      · next shape hvalue =>
        rw [hvalue] at hdeep
        exact absurd rfl (hdeep shape)
      · exact ⟨_, _, rfl⟩

/-- An overlay that was loaded had no values nested too deep. -/
theorem Overlay.ne_tooDeep_of_isSome {depth : Nat} {fs : FileSystem} {path : Path}
    (h : (Overlay.load depth fs path).toOption.isSome = true) (shape : Json.Shape) :
    Overlay.load depth fs path ≠ .error (.tooDeep shape) := by
  intro hdeep
  rw [hdeep] at h
  cases h

/-- The three members that are read as lists are read as such. -/
structure Overlay.IsListed (o : Overlay) : Prop where
  channels : (o.value channelsName).isListed = true
  candidates : (o.value candidatesName).isListed = true
  dualInterfaces : (o.value dualInterfacesName).isListed = true

/-- The three of them, one by one. -/
theorem Overlay.isListed_iff : o.IsListed ↔ (o.value channelsName).isListed = true ∧
    (o.value candidatesName).isListed = true ∧ (o.value dualInterfacesName).isListed = true :=
  ⟨fun h => ⟨h.channels, h.candidates, h.dualInterfaces⟩, fun h => ⟨h.1, h.2.1, h.2.2⟩⟩

instance : Decidable o.IsListed := decidable_of_iff _ Overlay.isListed_iff.symm

/-! ## Templates -/

namespace Concurrency

/-- A template can be looked for, and if there is one no number in it has too many
digits. -/
structure Readable (fs : FileSystem) (path : Path) : Prop where
  canLookFor : fs.CanLookFor path
  lines : fs.isFile path = .ok true → ∀ bytes, fs.read path = .ok bytes →
    ∀ line ∈ fileLines bytes, endsReading line = false

/-- A template is read to its end just if it is readable: what is wrong with a line is made
good, but for too many digits. -/
theorem exists_load {fs : FileSystem} {path : Path} {c : Concurrency} :
    (∃ reading, load fs path c = .ok reading ∧ ∃ c', reading.result = .ok c') ↔
      Readable fs path := by
  have hprobe : (∃ found, fs.isFile path = .ok found) ↔ fs.CanLookFor path :=
    FileSystem.exists_probe
  have hreadable : Readable fs path ↔ (∃ found, fs.isFile path = .ok found) ∧
      (fs.isFile path = .ok true → ∀ bytes, fs.read path = .ok bytes →
        ∀ line ∈ fileLines bytes, endsReading line = false) := by
    rw [hprobe]
    exact ⟨fun h => ⟨h.canLookFor, h.lines⟩, fun h => ⟨h.1, h.2⟩⟩
  rw [load, hreadable]
  cases hfound : fs.isFile path with
  | error e => simp [bind, Except.bind]
  | ok found =>
    cases found with
    | false => simp [bind, Except.bind, pure, Except.pure]
    | true =>
      cases hread : fs.read path with
      | error e =>
        simp [bind, Except.bind, pure, Except.pure, readOpen, readEach_eq_readLines, readLines]
      | ok bytes =>
        simp [bind, Except.bind, pure, Except.pure, readOpen, readEach_eq_readLines,
          exists_readLines]

end Concurrency

/-! ## Steps of an opening -/

namespace World

/-- The files have a part in what follows an action, but neither its value nor the log. -/
theorem succeeds_bind {x : Action β} {f : β → Action α} {C : Prop}
    (hx : Preserves (fun w' => w'.files = w.files) x)
    (hf : ∀ b w', w'.files = w.files → (Succeeds (f b) w' ↔ C)) :
    Succeeds (x >>= f) w ↔ Succeeds x w ∧ C := by
  rw [Succeeds.bind_iff]
  constructor
  · rintro ⟨b, w', hb, h⟩
    exact ⟨⟨b, w', hb⟩, (hf b w' ((hx w rfl).of_ok hb)).1 h⟩
  · rintro ⟨⟨b, w', hb⟩, h⟩
    exact ⟨b, w', hb, (hf b w' ((hx w rfl).of_ok hb)).2 h⟩

/-- The files have nothing to do with the log. -/
theorem ignoresLog_files (fs : FileSystem) : IgnoresLog fun w => w.files = fs := fun _ _ h => h

end World

namespace Store

open World

/-- The channels are found just if their member is read as a list. -/
theorem succeeds_startChannels (ho : o.IsWritable) :
    Succeeds (startChannels o) w ↔ (o.value Overlay.channelsName).isListed = true := by
  rw [← Channels.exists_ofList (ho.value _)]
  refine Succeeds.bind_iff.trans ⟨?_, fun ⟨channels, h⟩ => ?_⟩
  · rintro ⟨_, w₁, -, h⟩
    obtain ⟨channels, hchannels, -⟩ := succeeds_orFail_bind.1 h
    exact ⟨channels, hchannels⟩
  · exact ⟨(), _, rfl, succeeds_orFail_bind.2 ⟨channels, h, _, _, rfl⟩⟩

/-- The concurrency is found just if the interfaces are listed and the template is readable. -/
theorem succeeds_startConcurrency (ho : o.IsWritable) :
    Succeeds (startConcurrency o template) w ↔
      (o.value Overlay.dualInterfacesName).isListed = true ∧
        Concurrency.Readable w.files template := by
  rw [startConcurrency, succeeds_orFail_bind, Overlay.dualInterfaces,
    ← Overlay.exists_texts (ho.value _), ← exists_and_right]
  refine exists_congr fun dualInterfaces => and_congr_right fun _ => ?_
  rw [← Concurrency.exists_load]
  refine succeeds_orFail_bind.trans (exists_congr fun reading => and_congr_right fun _ => ?_)
  exact succeeds_orFail

/-- The candidates are found just if their member is read as a list. -/
theorem succeeds_candidates (ho : o.IsWritable) :
    Succeeds (orFail .ofListError o.candidates) w ↔
      (o.value Overlay.candidatesName).isListed = true := by
  rw [succeeds_orFail, Overlay.candidates, Overlay.exists_texts (ho.value _)]

/-- After the configuration it takes the lists of the overlay and the template. -/
theorem succeeds_start (ho : o.IsWritable) :
    Succeeds (start o p template) w ↔ ∃ a w₁, startConfig o p w = .ok a w₁ ∧ o.IsListed ∧
      Concurrency.Readable w₁.files template := by
  rw [start, Succeeds.bind_iff]
  refine exists_congr fun a => exists_congr fun w₁ => and_congr_right fun _ => ?_
  have hlog := ignoresLog_files w₁.files
  rw [Overlay.isListed_iff, and_assoc, and_assoc, ← succeeds_startChannels ho (w := w₁)]
  refine succeeds_bind (preserves_startChannels hlog o) fun channels w₂ h₂ => ?_
  rw [← succeeds_candidates ho (w := w₂)]
  refine succeeds_bind (.orFail _ _) fun candidates w₃ h₃ => ?_
  rw [← h₂, ← h₃, ← succeeds_startConcurrency ho, ← and_true (Succeeds (startConcurrency _ _) _)]
  exact succeeds_bind (preserves_startConcurrency (ignoresLog_files _) o template)
    fun concurrency w₄ _ => iff_of_true .pure trivial

/-! ## Opening -/

/-- Opens a store on an overlay file, a configuration file and a template. -/
def openAt (overlayFile p template : Path) : Action Store := do
  let w ← get
  let (o, records) ← orFail .overlay (Overlay.load w.depth w.files overlayFile)
  log records
  start o p template

/-- A command line opens a store on the three files that it settles on. -/
theorem startStore_eq_openAt (settings : Settings) (i : CommandLine.Invocation) :
    CommandLine.startStore settings i = openAt (Settings.pathOr settings.overlayFile i.overlayFile)
      (Settings.pathOr settings.configFile i.configFile)
      (Settings.pathOr settings.concurrencyFile i.concurrencyFile) := rfl

/-- It opens if an overlay is loaded and the store starts on it. -/
theorem succeeds_openAt {overlayFile : Path} :
    Succeeds (openAt overlayFile p template) w ↔ ∃ loaded,
      Overlay.load w.depth w.files overlayFile = .ok loaded ∧
        Succeeds (start loaded.1 p template) { w with records := w.records ++ loaded.2 } := by
  rw [openAt, Succeeds.get_bind_iff, succeeds_orFail_bind]
  exact Iff.rfl

/-- On an overlay that can be shown a store starts if the lists are listed, the configuration can
be loaded or made up, and the template is readable once that is done. -/
theorem succeeds_start_iff (hname : p.name?.isSome = true) (hfault : p.nameFault? = none)
    (hdraws : w.entropy.NeverFails) (ho : o.IsWritable) :
    Succeeds (start o p template) w ↔ o.IsListed ∧
      ((∃ c, Config.load w.files p = .ok c) ∨
        ∀ c bytes, w.drawnFrom? o.template? Config.generateDefault = some c →
          c.encode = .ok bytes → Config.HasRoom w.faults p w.files) ∧
      ∀ a w₁, startConfig o p w = .ok a w₁ → Concurrency.Readable w₁.files template := by
  obtain ⟨shown, hshown⟩ := Json.exists_shown? (ho.value Overlay.templateName)
  have htemplate : o.template?.isSome = true := Option.isSome_iff_exists.2 ⟨shown, hshown⟩
  rw [succeeds_start ho, ← succeeds_startConfig hname hfault hdraws htemplate]
  constructor
  · rintro ⟨a, w₁, ha, hlisted, hreadable⟩
    refine ⟨hlisted, ⟨a, w₁, ha⟩, fun a' w₁' ha' => ?_⟩
    rw [ha] at ha'
    cases ha'
    exact hreadable
  · rintro ⟨hlisted, ⟨a, w₁, ha⟩, hreadable⟩
    exact ⟨a, w₁, ha, hlisted, hreadable a w₁ ha⟩

/-- **When a store opens.** Where the path of the configuration can be handed over and ends
in a name, the random inputs never fail, and no values of the overlay are nested too deep,
a store opens if all of this holds, and only then:

* the overlay can be looked for, and what it gives for the three lists is read as such;
* there is a configuration to load, or there is room for the default, if it has bytes;
* the template can be looked for, once the configuration is there, and no number in it has
  too many digits.

Nothing else that the three files hold keeps it from opening, and no call that fails. -/
theorem opens_iff {overlayFile : Path} (hname : p.name?.isSome = true)
    (hfault : p.nameFault? = none) (hdraws : w.entropy.NeverFails)
    (hdeep : ∀ shape, Overlay.load w.depth w.files overlayFile ≠ .error (.tooDeep shape)) :
    (∃ s w', openAt overlayFile p template w = .ok s w') ↔
      w.files.CanLookFor overlayFile ∧
      ∀ o records, Overlay.load w.depth w.files overlayFile = .ok (o, records) →
        o.IsListed ∧
        ((∃ c, Config.load w.files p = .ok c) ∨
          ∀ c bytes, w.drawnFrom? o.template? Config.generateDefault = some c →
            c.encode = .ok bytes → Config.HasRoom w.faults p w.files) ∧
        ∀ a w₁, startConfig o p { w with records := w.records ++ records } = .ok a w₁ →
          Concurrency.Readable w₁.files template := by
  have hstart {o : Overlay} {records : List Log.Record}
      (hload : Overlay.load w.depth w.files overlayFile = .ok (o, records)) :=
    @succeeds_start_iff { w with records := w.records ++ records } o p template hname hfault hdraws
      (Overlay.isWritable_of_load hload)
  -- loading gives one overlay, so what holds of every one it gives holds of that one
  refine succeeds_openAt.trans ?_
  rw [← Overlay.exists_load hdeep]
  constructor
  · rintro ⟨⟨o, records⟩, hload, h⟩
    refine ⟨⟨o, records, hload⟩, fun o' records' hload' => ?_⟩
    rw [hload] at hload'
    cases hload'
    exact (hstart hload).1 h
  · rintro ⟨⟨o, records, hload⟩, h⟩
    exact ⟨(o, records), hload, (hstart hload).2 (h o records hload)⟩

/-- The inputs of the world without files never fail. -/
theorem neverFails_bare : World.bare.entropy.NeverFails :=
  ⟨fun _ => ⟨4242, rfl⟩, fun _ => ⟨⟨0, by decide⟩, rfl⟩⟩

/-- A world with something wrong in each of the three files: the configuration is of no
version there is, the overlay lists channels that are none, and of the three lines of the
template one is in no encoding and one has no value. -/
def damaged : World where
  files := {
    workingDirectory := .root
    entries := [
      (Location.root.child (Path.bytes "softap.conf"), .file [0, 0, 0, 9] 0o600),
      (Location.root.child (Path.bytes "overlay.json"), .file (Utf8.encode
        "\x7b\"config_wifi_framework_sap_2G_channel_list\":[\"x\",6,null]\x7d") 0o644),
      (Location.root.child (Path.bytes "concurrency.txt"), .file
        ([0xFF, 0x0A] ++ Utf8.encode "SAP_CHANNEL:high\nSAP_CHANNEL:36\n") 0o644)] }
  entropy := World.bare.entropy

/-- A store opens all the same, with a default in place of the configuration and with what
is right in the other two. -/
theorem opens_of_damaged :
    (Path.ofText "softap.conf").name?.isSome = true ∧
    (Path.ofText "softap.conf").nameFault? = none ∧ damaged.entropy.NeverFails ∧
    (∀ shape, Overlay.load damaged.depth damaged.files (Path.ofText "overlay.json") ≠
      .error (.tooDeep shape)) ∧
    ∃ s w', openAt (Path.ofText "overlay.json") (Path.ofText "softap.conf")
      (Path.ofText "concurrency.txt") damaged = .ok s w' ∧
      s.origin = .persisted ∧ s.channels = some [6] ∧ s.concurrency.channel = 36 := by
  have hname : (Path.ofText "softap.conf").name?.isSome = true := by decide
  have hfault : (Path.ofText "softap.conf").nameFault? = none := by decide
  have hloaded : (Overlay.load damaged.depth damaged.files
      (Path.ofText "overlay.json")).toOption.isSome = true := by decide +kernel
  have hdeep := Overlay.ne_tooDeep_of_isSome hloaded
  have hlisted : (Overlay.load damaged.depth damaged.files
      (Path.ofText "overlay.json")).toOption.all (fun loaded => loaded.1.IsListed) = true := by
    decide +kernel
  have hread : Ends (do
        let (o, records) ← orFail .overlay
          (Overlay.load damaged.depth damaged.files (Path.ofText "overlay.json"))
        log records
        startConfig o (Path.ofText "softap.conf")) damaged
      (fun _ w₁ => w₁.files.locate (Path.ofText "concurrency.txt") ≠ .error .nameTooLong ∧
        w₁.files.read (Path.ofText "concurrency.txt") = .ok
          ([0xFF, 0x0A] ++ Utf8.encode "SAP_CHANNEL:high\nSAP_CHANNEL:36\n"))
      (fun _ _ => False) := by decide +kernel
  have hlines : ∀ line ∈ Concurrency.fileLines
      ([0xFF, 0x0A] ++ Utf8.encode "SAP_CHANNEL:high\nSAP_CHANNEL:36\n"),
      Concurrency.endsReading line = false := by decide +kernel
  have hopens : ∃ s w', openAt (Path.ofText "overlay.json") (Path.ofText "softap.conf")
      (Path.ofText "concurrency.txt") damaged = .ok s w' := by
    refine (opens_iff (w := damaged) hname hfault neverFails_bare hdeep).2
      ⟨.inr (by decide), fun o records hload => ?_⟩
    rw [hload] at hlisted hread
    refine ⟨of_decide_eq_true hlisted, .inr fun c bytes _ _ => by decide, fun a w₁ ha => ?_⟩
    obtain ⟨hlocate, hbytes⟩ := hread.of_ok ha
    refine ⟨.inr hlocate, fun _ bytes hbytes' => ?_⟩
    obtain rfl := Except.ok.inj (hbytes.symm.trans hbytes')
    exact hlines
  obtain ⟨s, w', hopens⟩ := hopens
  have hends : Ends (openAt (Path.ofText "overlay.json") (Path.ofText "softap.conf")
      (Path.ofText "concurrency.txt")) damaged
      (fun s _ => s.origin = .persisted ∧ s.channels = some [6] ∧ s.concurrency.channel = 36)
      (fun _ _ => False) := by decide +kernel
  exact ⟨hname, hfault, neverFails_bare, hdeep, s, w', hopens, hends.of_ok hopens⟩

/-- A world with an overlay that gives a number where the channels are listed. -/
def numberedOverlay : World where
  files := {
    workingDirectory := .root
    entries := [(Location.root.child (Path.bytes "overlay.json"),
      .file (Utf8.encode "\x7b\"config_wifi_framework_sap_2G_channel_list\":5\x7d") 0o644)] }
  entropy := World.bare.entropy

/-- Such an overlay keeps every store from opening. -/
theorem not_opens_of_number :
    ¬ ∀ (overlayFile p template : Path) (w : World),
      p.name?.isSome = true → p.nameFault? = none → w.entropy.NeverFails →
      (∀ shape, Overlay.load w.depth w.files overlayFile ≠ .error (.tooDeep shape)) →
      ∃ s w', openAt overlayFile p template w = .ok s w' := by
  intro h
  have hfails : Ends (openAt (Path.ofText "overlay.json") (Path.ofText "softap.conf")
      (Path.ofText "concurrency.txt")) numberedOverlay (fun _ _ => False)
      (fun e _ => e = .notAList ⟨"int"⟩) := by decide +kernel
  have hloaded : (Overlay.load numberedOverlay.depth numberedOverlay.files
      (Path.ofText "overlay.json")).toOption.isSome = true := by decide +kernel
  obtain ⟨s, w', hopens⟩ := h (Path.ofText "overlay.json") (Path.ofText "softap.conf")
    (Path.ofText "concurrency.txt") numberedOverlay (by decide) (by decide)
    neverFails_bare (Overlay.ne_tooDeep_of_isSome hloaded)
  exact hfails.of_ok hopens

end Store
end Hotspot
