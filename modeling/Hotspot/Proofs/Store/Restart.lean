/-
# Starting again

A store that starts where a configuration is on file loads it, in the form that a
file keeps. It writes nothing and draws nothing, so the next one finds the same
file. What a run wrote last is therefore what every later store starts with,
however many there are:

| process | starts with | on file afterwards |
| --- | --- | --- |
| first | anything | `c`, which it wrote last |
| second | `c.canon` | `c` |
| any later one | `c.canon` | `c` |
-/

import Hotspot.Proofs.Store.Durability
import Hotspot.Proofs.Store.Loading

namespace Hotspot

open Config (Stored)

variable {p template : Path} {fs : FileSystem} {c : Config} {o : Overlay} {w w' : World}

namespace Store

/-! ## Any number of starts -/

/-- Stores start at a path one after the other, the first one on some files and each
later one on those the one before left. All else may differ from start to start. The
last one starts in one world and leaves another. -/
inductive Restarts (p : Path) (fs : FileSystem) : World → Store → World → Prop
  | once {o : Overlay} {template : Path} {w w' : World} {s : Store} (hfiles : w.files = fs)
    (hstart : start o p template w = .ok s w') : Restarts p fs w s w'
  | again {o : Overlay} {template : Path} {w w' v v' : World} {s t : Store}
    (before : Restarts p fs w s w') (hfiles : v.files = w'.files)
    (hstart : start o p template v = .ok t v') : Restarts p fs v t v'

/-- Every store that starts on a configuration has it, and leaves the files. -/
theorem Restarts.of_stored {s : Store} (h : Restarts p fs w s w') (hc : Stored p c fs) :
    s.config = c.canon ∧ s.origin = .loaded ∧ w'.files = fs ∧ w.files = fs ∧
      w'.entropy = w.entropy := by
  induction h with
  | once hfiles hstart =>
    rw [← hfiles] at hc
    obtain ⟨-, hconfig, horigin, hsame, hentropy⟩ :=
      (ends_start_of_stored hc _ _).of_ok hstart
    exact ⟨hconfig, horigin, hsame.trans hfiles, hfiles, hentropy⟩
  | again _ hfiles hstart ih =>
    -- the store before left the files as they were, so the configuration is still on file
    have hleft := hfiles.trans ih.2.2.1
    rw [← hleft] at hc
    obtain ⟨-, hconfig, horigin, hsame, hentropy⟩ :=
      (ends_start_of_stored hc _ _).of_ok hstart
    exact ⟨hconfig, horigin, hsame.trans hleft, hleft, hentropy⟩

/-- **A store that starts again has what was written last.** Over every run of a store,
with any calls made to fail, if a configuration was written, at the start or since, every
store that later starts at its path, however many started in between, has loaded the one
written last, in its canonical form. It has drawn nothing and left the files as they
were. -/
theorem restart {s : Store} (hstart : start o p template w = .ok s w')
    (requests : List (Faults × Request)) :
    ∃ l, Ledger.opening o p w = some l ∧
      let r := Running.afterAll ⟨s, w'⟩ requests
      ∀ c, (l.nextAll ⟨s, w'⟩ requests).onFile = some c →
        ∀ v t v', Restarts p r.world.files v t v' →
          t.origin = .loaded ∧ v'.entropy = v.entropy ∧
          v.files = r.world.files ∧ v'.files = r.world.files ∧
          reply .get ⟨t, v'⟩ = .ok (.config c.canon) ⟨t, v'⟩ := by
  obtain ⟨l, hl, hpath, -, hactive, honFile⟩ := (ends_start o p template w).of_ok hstart
  refine ⟨l, hl, ?_⟩
  have hdurable := Durable.afterAll (r := ⟨s, w'⟩) ⟨hpath, hactive, honFile⟩ requests
  intro r c hc v t v' hrestarts
  have hholds := hdurable.onFile
  rw [hc] at hholds
  obtain ⟨hconfig, horigin, hafter, hbefore, hentropy⟩ := hrestarts.of_stored hholds
  refine ⟨horigin, hentropy, hbefore, hafter, ?_⟩
  show EStateM.Result.ok (Reply.config t.config) (Running.mk t v') = _
  rw [hconfig]

/-- An open configuration with a key, and a name that is a pair of surrogates: the second
store that starts after it was set has no key and one code point. -/
theorem restart_of_bare :
    ∃ s w',
      start (Overlay.ofMembers []) (Path.ofText "softap.conf") (Path.ofText "template.txt")
        World.bare = .ok s w' ∧
      let r := Running.afterAll ⟨s, w'⟩ [(Faults.none, .set (some
        { ssid := some [0xD83D, 0xDE00], key := some [97], networkId := 7 }))]
      ∃ v t v', Restarts (Path.ofText "softap.conf") r.world.files v t v' ∧
        t.origin = .loaded ∧ v'.files = r.world.files ∧
        reply .get ⟨t, v'⟩ = .ok (.config { ssid := some [0x1F600] }) ⟨t, v'⟩ := by
  let given : Config := { ssid := some [0xD83D, 0xDE00], key := some [97], networkId := 7 }
  let first := Config.ofDraws "AndroidAP" (-1) 4242 0
  let requests : List (Faults × Request) := [(Faults.none, .set (some given))]
  let starting := start (Overlay.ofMembers []) (Path.ofText "softap.conf")
    (Path.ofText "template.txt")
  have hopening : Ledger.opening (Overlay.ofMembers []) (Path.ofText "softap.conf") World.bare =
      some ⟨first, some first⟩ := by decide
  have hrun : Ends starting World.bare
      (fun s w' => (Ledger.nextAll ⟨first, some first⟩ ⟨s, w'⟩ requests).onFile = some given ∧
        Ends starting { World.bare with files := (Running.afterAll ⟨s, w'⟩ requests).world.files }
          (fun _ v => Ends starting v (fun _ _ => True) fun _ _ => False) fun _ _ => False)
      (fun _ _ => False) := by decide +kernel
  obtain ⟨s, w', hstart, honFile, hagain⟩ := hrun.exists_ok
  obtain ⟨t₁, v₁, hstart₁, hagain⟩ := hagain.exists_ok
  obtain ⟨t₂, v₂, hstart₂, -⟩ := hagain.exists_ok
  obtain ⟨l, hl, hrestart⟩ := restart hstart requests
  rw [← Option.some.inj (hopening.symm.trans hl)] at hrestart
  have hchain : Restarts (Path.ofText "softap.conf")
      (Running.afterAll ⟨s, w'⟩ requests).world.files v₁ t₂ v₂ := by
    refine .again (.once ?_ hstart₁) rfl hstart₂
    rfl
  obtain ⟨horigin, -, -, hfiles, hget⟩ := hrestart given honFile _ _ _ hchain
  have hcanon : given.canon = { ssid := some [0x1F600] } := by decide +kernel
  rw [hcanon] at hget
  exact ⟨s, w', hstart, v₁, t₂, v₂, hchain, horigin, hfiles, hget⟩

end Store
end Hotspot
