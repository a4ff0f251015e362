/-
# Replacing a file, or leaving it

While a file is replaced, only its temporary file is touched until the renaming,
which is the last call. So the file is the old one, entirely, wherever a call
fails, and the new one, entirely and for its owner alone, if none does. The
temporary file is gone by then, unless a failed call is followed by a clean-up
that fails too (`Cleared`).
-/

import Hotspot.Proofs.FileSystem.Directories

namespace Hotspot
namespace FileSystem

variable {fs fs' : FileSystem} {made : Location → Prop} {p : Path} {l : Location}
  {faults : Faults} {content : Bytes} {mode : Nat}

/-! ## Files at paths -/

/-- A call that locates its path first goes on at the location, or fails before it has changed
anything. -/
theorem ends_locating_bind {β : Type} {f : Location → Calls β} {Q : β → FileSystem → Prop}
    {E : IoError → FileSystem → Prop} (herror : ∀ e reason, fs.locate p = .error reason → E e fs)
    (h : ∀ l, fs.locate p = .ok l → Ends (f l) fs Q E) : Ends (locating p >>= f) fs Q E := by
  have hlocating : Ends (locating p) fs (fun l fs' => fs.locate p = .ok l ∧ fs = fs')
      (fun _ fs' => (∃ reason, fs.locate p = .error reason) ∧ fs = fs') := by
    refine .get_bind ?_
    split
    · next l hl => exact .pure ⟨hl, rfl⟩
    · next reason hreason => exact .throw ⟨⟨reason, hreason⟩, rfl⟩
  refine .bind (hlocating.mono (fun _ _ h => h) ?_) ?_
  · rintro e _ ⟨⟨reason, hreason⟩, rfl⟩
    exact herror e reason hreason
  · rintro l _ ⟨hl, rfl⟩
    exact h l hl

/-- A file that is put at a path is written at its target alone. -/
theorem frame_set_file_of_locate (hl : fs.locate p = .ok l) (content : Bytes) (mode : Nat) :
    Frame made (· = fs.target p) fs (fs.set l (.file content mode)) := by
  refine frame_set_file ?_ content mode
  exact (locate_eq_ok.1 hl).2.2

/-- It is found there afterwards. -/
theorem entryAt?_set_file (hl : fs.locate p = .ok l) (hdir : fs.get? l ≠ some .directory)
    (content : Bytes) (mode : Nat) :
    (fs.set l (.file content mode)).entryAt? p = some (.file content mode) := by
  have hframe : Frame (fun _ => False) _ fs _ := frame_set_file_of_locate hl content mode
  obtain ⟨hlong, hpass, rfl⟩ := locate_eq_ok.1 hl
  have hparent := parent_walk (get?_startOf fs p) hpass
  rw [entryAt?_eq_some, hframe.startOf, hframe.target, get?_set hdir hparent]
  exact ⟨hlong, hframe.passable hpass, if_pos rfl⟩

/-- What is found at a path is what is at its location. -/
theorem get?_of_entryAt? {entry : Entry} (he : fs.entryAt? p = some entry)
    (hl : fs.locate p = .ok l) : fs.get? l = some entry := by
  obtain ⟨-, -, rfl⟩ := locate_eq_ok.1 hl
  exact (entryAt?_eq_some.1 he).2.2

/-- Nothing is found at a path that leads nowhere. -/
theorem entryAt?_of_locate_error {reason : Errno} (h : fs.locate p = .error reason) :
    fs.entryAt? p = none := by
  rw [entryAt?, entry?, h]
  rfl

/-- What is at the target of a path is found there, if the path leads there at all. -/
theorem entryAt?_of_get?_target {entry : Option Entry} (h : fs.get? (fs.target p) = entry) :
    fs.entryAt? p = none ∨ fs.entryAt? p = entry := by
  refine (Option.eq_none_or_eq_some _).imp_right fun ⟨found, hfound⟩ => ?_
  rw [hfound, ← (entryAt?_eq_some.1 hfound).2.2, h]

/-- So nothing is found where nothing is. -/
theorem entryAt?_eq_none_of_target (h : fs.get? (fs.target p) = none) : fs.entryAt? p = none :=
  (entryAt?_of_get?_target h).elim id id

/-! ## The calls -/

/-- Opening a file for writing leaves an empty one, of some mode, or fails. -/
theorem ends_openEmpty :
    Ends (openEmpty faults p) fs
      (fun _ fs' => Frame made (· = fs.target p) fs fs' ∧
        ∃ mode, fs'.entryAt? p = some (.file [] mode))
      (fun _ fs' => Frame made (· = fs.target p) fs fs') := by
  refine ends_guarded (fun _ _ => .refl ..) fun _ => ends_locating_bind (fun _ _ _ => .refl ..)
    fun l hl => .get_bind ?_
  split
  · exact .throw (.refl ..)
  · next mode hget =>
    have hdir := ne_directory_of_file hget
    exact .modify ⟨frame_set_file_of_locate hl .., mode, entryAt?_set_file hl hdir ..⟩
  · next hget =>
    have hdir := ne_directory_of_none hget
    exact .modify ⟨frame_set_file_of_locate hl .., _, entryAt?_set_file hl hdir ..⟩

/-- Writing fills the file that is there and keeps its mode. -/
theorem ends_fill {old : Bytes} (he : fs.entryAt? p = some (.file old mode)) (content : Bytes) :
    Ends (fill p content) fs
      (fun _ fs' => Frame made (· = fs.target p) fs fs' ∧
        fs'.entryAt? p = some (.file content mode))
      (fun _ fs' => Frame made (· = fs.target p) fs fs') := by
  refine ends_locating_bind (fun _ _ _ => .refl ..) fun l hl => .get_bind ?_
  have hget := get?_of_entryAt? he hl
  have hdir := ne_directory_of_file hget
  rw [hget]
  exact .modify ⟨frame_set_file_of_locate hl .., entryAt?_set_file hl hdir ..⟩

/-- A writing that fails has left the file partly written, so in that case nothing is said of
its content. -/
theorem ends_writeAll {old : Bytes} (he : fs.entryAt? p = some (.file old mode)) :
    Ends (writeAll faults p content) fs
      (fun _ fs' => Frame made (· = fs.target p) fs fs' ∧
        fs'.entryAt? p = some (.file content mode))
      (fun _ fs' => Frame made (· = fs.target p) fs fs') := by
  rw [writeAll]
  split
  · exact .bind (ends_fill he _) fun _ _ h => .throw h.1
  · exact ends_fill he content

/-- Changing the mode keeps the content. -/
theorem ends_changeMode (he : fs.entryAt? p = some (.file content mode)) (mode' : Nat) :
    Ends (changeMode faults p mode') fs
      (fun _ fs' => Frame made (· = fs.target p) fs fs' ∧
        fs'.entryAt? p = some (.file content mode'))
      (fun _ fs' => Frame made (· = fs.target p) fs fs') := by
  refine ends_guarded (fun _ _ => .refl ..) fun _ => ends_locating_bind (fun _ _ _ => .refl ..)
    fun l hl => .get_bind ?_
  have hget := get?_of_entryAt? he hl
  have hdir := ne_directory_of_file hget
  rw [hget]
  exact .modify ⟨frame_set_file_of_locate hl .., entryAt?_set_file hl hdir ..⟩

/-- Nothing is at a path, unless what is there cannot be removed. -/
def Cleared (faults : Faults) (p : Path) (fs : FileSystem) : Prop :=
  fs.entryAt? p = none ∨ (faults.refuse .unlink).isSome ∨ fs.entryAt? p = some .directory

/-- Removing a file leaves nothing at the path, or leaves what could not be removed. -/
theorem ends_unlink :
    Ends (unlink faults p) fs
      (fun _ fs' => Frame made (· = fs.target p) fs fs' ∧ Cleared faults p fs')
      (fun _ fs' => Frame made (· = fs.target p) fs fs' ∧ Cleared faults p fs') := by
  refine ends_guarded (fun message h => ⟨.refl .., .inr (.inl (by rw [h]; rfl))⟩) fun _ => ?_
  refine ends_locating_bind (fun _ _ h => ⟨.refl .., .inl (entryAt?_of_locate_error h)⟩)
    fun l hl => .get_bind ?_
  obtain ⟨-, -, rfl⟩ := locate_eq_ok.1 hl
  split
  · next hget =>
    have hdir := ne_directory_of_file hget
    have hgone : (fs.erase (fs.target p)).get? ((fs.erase (fs.target p)).target p) = none := by
      have htarget : (fs.erase (fs.target p)).target p = fs.target p := by
        rw [target, startOf, workingDirectory_erase]
        rfl
      rw [htarget, get?_erase hdir, if_pos rfl]
    exact .modify ⟨frame_erase rfl, .inl (entryAt?_eq_none_of_target hgone)⟩
  · next hget => exact .throw ⟨.refl .., (entryAt?_of_get?_target hget).imp_right .inr⟩
  · next hget => exact .throw ⟨.refl .., .inl (entryAt?_eq_none_of_target hget)⟩

/-- Moving a file away and to a path where no directory is. -/
theorem frame_move {s t : Location} (ht : fs.locate p = .ok t)
    (hs : fs.get? s = some (.file content mode)) (hdir : fs.get? t ≠ some .directory)
    (hne : s ≠ t) :
    Frame made (fun l => l = s ∨ l = t) fs ((fs.erase s).set t (.file content mode)) ∧
      ((fs.erase s).set t (.file content mode)).get? s = none ∧
      ((fs.erase s).set t (.file content mode)).entryAt? p = some (.file content mode) := by
  have hsdir := ne_directory_of_file hs
  have herase : Frame made (fun l => l = s ∨ l = t) fs (fs.erase s) := frame_erase (.inl rfl)
  have hloc := herase.locate ht
  have htdir : (fs.erase s).get? t ≠ some .directory := by
    rwa [get?_erase_of_ne hne.symm]
  refine ⟨herase.trans ((frame_set_file_of_locate hloc ..).mono (fun _ h => h) ?_), ?_,
    entryAt?_set_file hloc htdir ..⟩
  · rintro _ rfl
    exact .inr (locate_eq_ok.1 hloc).2.2.symm
  · rw [get?_set_of_ne hne, get?_erase hsdir, if_pos rfl]

/-- Renaming carries the file over: only both ends change, and if it fails nothing is changed
but at the source. -/
theorem ends_rename {source : Path} (he : fs.entryAt? source = some (.file content mode))
    (hne : fs.target source ≠ fs.target p) :
    Ends (rename faults source p) fs
      (fun _ fs' => Frame made (fun l => l = fs.target source ∨ l = fs.target p) fs fs' ∧
        fs'.entryAt? source = none ∧ fs'.entryAt? p = some (.file content mode))
      (fun _ fs' => Frame made (· = fs.target source) fs fs') := by
  refine ends_guarded (fun _ _ => .refl ..) fun _ => .get_bind ?_
  split
  · exact .throw (.refl ..)
  · exact .throw (.refl ..)
  · next s t hs ht =>
    split
    · exact .throw (.refl ..)
    · have hget := get?_of_entryAt? he hs
      obtain ⟨-, -, rfl⟩ := locate_eq_ok.1 hs
      have htarget := (locate_eq_ok.1 ht).2.2
      split
      · exact .throw (.refl ..)
      · exact .throw (.refl ..)
      · next entry _ hentry hdir =>
        cases hget.symm.trans hentry
        rw [← htarget] at hne ⊢
        obtain ⟨hframe, hgone, he⟩ := @frame_move _ made _ _ _ _ _ ht hget hdir hne
        refine .modify ⟨hframe, entryAt?_eq_none_of_target ?_, he⟩
        rw [hframe.target]
        exact hgone

/-! ## The temporary file -/

/-- The bytes of a longer text are the bytes of its parts. -/
theorem length_bytes_append (t u : Text) :
    (Path.bytes (t ++ u)).length = (Path.bytes t).length + (Path.bytes u).length := by
  rw [Path.bytes, List.flatMap_append, List.length_append]
  rfl

/-- The temporary file is not where the file is. -/
theorem target_addSuffix?_ne (fs : FileSystem) {temporary : Path}
    (h : p.addSuffix? temporarySuffix = some temporary) : fs.target temporary ≠ fs.target p := by
  rw [Path.addSuffix?, Path.name?, Option.map_eq_some_iff] at h
  obtain ⟨name, hname, rfl⟩ := h
  obtain ⟨before, hbefore⟩ := List.getLast?_eq_some_iff.1 hname
  have hlong : name ++ temporarySuffix ≠ Path.up := by
    intro h
    have hlen := congrArg List.length h
    rw [List.length_append, show temporarySuffix.length = 4 from rfl,
      show Path.up.length = 2 from rfl] at hlen
    omega
  have htarget : fs.target p = ((fs.startOf p).walk before).step name := by
    rw [target, hbefore, Location.walk_concat]
  have htemporary : fs.target { p with names := p.names.dropLast ++ [name ++ temporarySuffix] } =
      ((fs.startOf p).walk before).child (Path.bytes (name ++ temporarySuffix)) := by
    rw [hbefore, List.dropLast_concat, ← Location.step_of_ne hlong, ← Location.walk_concat]
    rfl
  rw [htarget, htemporary]
  intro heq
  by_cases hup : name = Path.up
  · -- the temporary file is one deeper than where it is made, the path leads one higher
    rw [hup, Location.step_up] at heq
    have hdepth := congrArg Location.depth heq
    rw [Location.depth_child, Location.depth_parent] at hdepth
    omega
  · rw [Location.step_of_ne hup] at heq
    have hlen := congrArg List.length (Location.child_injective heq)
    rw [length_bytes_append, show (Path.bytes temporarySuffix).length = 4 from rfl] at hlen
    omega

/-! ## The replacement -/

/-- Calls on a path after others on it: together they touch its file alone. -/
theorem ends_after {α : Type} {calls : Calls α} {R : α → FileSystem → Prop}
    (hframe : Frame made (· = fs.target p) fs fs')
    (h : Ends calls fs'
      (fun a fs'' => Frame made (· = fs'.target p) fs' fs'' ∧ R a fs'')
      (fun _ fs'' => Frame made (· = fs'.target p) fs' fs'')) :
    Ends calls fs' (fun a fs'' => Frame made (· = fs.target p) fs fs'' ∧ R a fs'')
      (fun _ fs'' => Frame made (· = fs.target p) fs fs'') := by
  rw [hframe.target] at h
  exact h.mono (fun _ _ h => ⟨hframe.trans h.1, h.2⟩) fun _ _ => hframe.trans

/-- An action whose failure is ignored leaves what it leaves either way, and does not fail. -/
theorem ends_ignoring {calls : Calls Unit} {Q : FileSystem → Prop}
    {E : IoError → FileSystem → Prop} (h : Ends calls fs (fun _ => Q) (fun _ => Q)) :
    Ends (ignoring calls) fs (fun _ => Q) E :=
  .tryCatch h fun _ _ hQ => .pure hQ

/-- **A replacement happens as a whole or not at all**: the file is there with its new
content and the temporary file is gone, or all that changed is the temporary file, and
that is gone if it can be removed. -/
theorem ends_replaceBy {temporary : Path} (hne : fs.target temporary ≠ fs.target p) :
    Ends (replaceBy faults temporary p content) fs
      (fun _ fs' => Frame made (fun l => l = fs.target temporary ∨ l = fs.target p) fs fs' ∧
        fs'.entryAt? temporary = none ∧ fs'.entryAt? p = some (.file content privateMode))
      (fun _ fs' => Frame made (· = fs.target temporary) fs fs' ∧
        Cleared faults temporary fs') := by
  refine .tryCatch (E := fun _ fs' => Frame made (· = fs.target temporary) fs fs') ?_
    fun e fs₁ hframe => ?_
  · refine .bind ends_openEmpty fun _ fs₁ ⟨h₁, mode, he₁⟩ => ?_
    refine .bind (ends_after h₁ (ends_writeAll he₁)) fun _ fs₂ ⟨h₂, he₂⟩ => ?_
    refine .bind (Q := fun _ fs' => fs₂ = fs') (ends_guarded (fun _ _ => h₂) fun _ => .pure rfl) ?_
    rintro - _ rfl
    refine .bind (Q := fun _ fs' => fs₂ = fs') (ends_ignoring (ends_guarded (fun _ _ => rfl)
      fun _ => .pure rfl)) ?_
    rintro - _ rfl
    refine .bind (ends_after h₂ (ends_changeMode he₂ privateMode)) fun _ fs₃ ⟨h₃, he₃⟩ => ?_
    have hrename := @ends_rename _ made p faults _ _ temporary he₃ (by
      rwa [h₃.target, h₃.target])
    rw [h₃.target, h₃.target] at hrename
    have hboth : Frame made (fun l => l = fs.target temporary ∨ l = fs.target p) fs fs₃ :=
      h₃.mono (fun _ h => h) fun _ => .inl
    exact hrename.mono (fun _ _ h => ⟨hboth.trans h.1, h.2⟩) fun _ _ => h₃.trans
  · -- whatever the clean-up does, it does to the temporary file
    refine .bind (ends_ignoring (Q := fun fs' => Frame made (· = fs.target temporary) fs fs' ∧
      Cleared faults temporary fs') ?_) fun _ _ h => .throw h
    have hunlink := @ends_unlink fs₁ made temporary faults
    rw [hframe.target] at hunlink
    exact hunlink.mono (fun _ _ h => ⟨hframe.trans h.1, h.2⟩) fun _ _ h => ⟨hframe.trans h.1, h.2⟩

end FileSystem
end Hotspot
