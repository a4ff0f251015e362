/-
# What calls on files leave alone

Calls make directories at some locations and write or remove files at others.
A `Frame` says where: all else is as before, and directories stay. Since a path
is followed along directories alone, what is found at a path does not change
either, with one exception. A path such as `a/../b` leads nowhere while `a` is
missing, and somewhere as soon as `a` is made on the way. Where that cannot
happen a path is `Settled`.
-/

import Hotspot.Proofs.FileSystem.Resolution
import Mathlib.Data.List.Induction

namespace Hotspot
namespace FileSystem

variable {fs fs' fs'' : FileSystem} {l : Location} {p : Path}

/-! ## Above and below -/

/-- Where a way along directories ends, there is a directory above. -/
theorem parent_walk (hl : fs.get? l = some .directory) {names : List Text}
    (hpass : fs.Passable l names) : fs.get? (l.walk names).parent = some .directory := by
  induction names using List.reverseRecOn with
  | nil => exact get?_parent hl
  | append_singleton names name =>
    obtain ⟨-, hdir, -⟩ := passable_append.1 hpass
    rw [Location.walk_concat]
    by_cases hup : name = Path.up
    · rw [hup, Location.step_up]
      exact get?_parent (get?_parent hdir)
    · rwa [Location.step_of_ne hup, Location.parent_child]

/-- What is somewhere below can be reached from above. -/
theorem passable_of_get?_walk {names : List Text} (hup : Path.up ∉ names)
    (hfits : ∀ name ∈ names, Path.NameFits name) {entry : Entry}
    (hget : fs.get? (l.walk names) = some entry) : fs.Passable l names := by
  induction names using List.reverseRecOn generalizing entry with
  | nil => trivial
  | append_singleton names name ih =>
    rw [List.mem_append, not_or, List.mem_singleton] at hup
    rw [Location.walk_concat, Location.step_of_ne (Ne.symm hup.2)] at hget
    have hdir : fs.get? (l.walk names) = some .directory := get?_parent hget
    have hpass := ih hup.1 (fun n hn => hfits n (List.mem_append_left _ hn)) hdir
    exact passable_append.2 ⟨hpass, hdir, hfits name (by simp), trivial⟩

/-! ## Frames -/

/-- What is left of a file system when directories are made at locations of one
kind and files are written or removed at locations of another. -/
structure Frame (made written : Location → Prop) (fs fs' : FileSystem) : Prop where
  workingDirectory : fs'.workingDirectory = fs.workingDirectory
  directory : ∀ l, fs.get? l = some .directory → fs'.get? l = some .directory
  elsewhere : ∀ l, ¬ written l → fs'.get? l = fs.get? l ∨
    made l ∧ fs.get? l = none ∧ fs'.get? l = some .directory

namespace Frame

variable {made written : Location → Prop}

/-- Doing nothing keeps to every frame. -/
theorem refl (made written : Location → Prop) (fs : FileSystem) : Frame made written fs fs :=
  ⟨rfl, fun _ h => h, fun _ _ => .inl rfl⟩

/-- What keeps to a frame twice keeps to it: a directory that the first made is there for the
second. -/
theorem trans (h : Frame made written fs fs') (h' : Frame made written fs' fs'') :
    Frame made written fs fs'' where
  workingDirectory := h'.workingDirectory.trans h.workingDirectory
  directory l hl := h'.directory l (h.directory l hl)
  elsewhere l hl := by
    rcases h.elsewhere l hl with hsame | ⟨hmade, hnone, hdir⟩
    · rw [← hsame]
      exact h'.elsewhere l hl
    · exact .inr ⟨hmade, hnone, h'.directory l hdir⟩

/-- A frame may be drawn wider. -/
theorem mono {made' written' : Location → Prop} (h : Frame made written fs fs')
    (hm : ∀ l, made l → made' l) (hw : ∀ l, written l → written' l) :
    Frame made' written' fs fs' :=
  { h with
    elsewhere := fun l hl =>
      (h.elsewhere l (mt (hw l) hl)).imp_right (And.imp_left (hm l)) }

/-- A path still starts where it did, since the working directory is the same. -/
theorem startOf (h : Frame made written fs fs') (p : Path) : fs'.startOf p = fs.startOf p := by
  rw [FileSystem.startOf, FileSystem.startOf, h.workingDirectory]

/-- It ends where it did: the end is a matter of names. -/
theorem target (h : Frame made written fs fs') (p : Path) : fs'.target p = fs.target p := by
  rw [FileSystem.target, FileSystem.target, h.startOf]

/-- What could be walked along can be, since no directory is taken away. -/
theorem passable (h : Frame made written fs fs') {names : List Text} (hp : fs.Passable l names) :
    fs'.Passable l names :=
  hp.mono h.directory

/-- So what could be located is located at the same place. -/
theorem locate (h : Frame made written fs fs') (hl : fs.locate p = .ok l) :
    fs'.locate p = .ok l := by
  rw [locate_eq_ok] at hl ⊢
  rw [h.startOf, h.target]
  exact ⟨hl.1, h.passable hl.2.1, hl.2.2⟩

end Frame

variable {made written : Location → Prop}

/-- Making a directory where nothing was makes that one. -/
theorem frame_set_directory (hmade : made l) (hnone : fs.get? l = none)
    (hparent : fs.get? l.parent = some .directory) :
    Frame made written fs (fs.set l .directory) where
  workingDirectory := workingDirectory_set ..
  directory _ := directory_set _
  elsewhere l' _ := by
    rw [get?_set (ne_directory_of_none hnone) hparent]
    split
    · next heq => exact .inr ⟨heq ▸ hmade, heq ▸ hnone, rfl⟩
    · exact .inl rfl

/-- Putting a file writes there and nowhere else. -/
theorem frame_set_file (hwritten : written l) (content : Bytes) (mode : Nat) :
    Frame made written fs (fs.set l (.file content mode)) where
  workingDirectory := workingDirectory_set ..
  directory _ := directory_set _
  elsewhere l' hl' := by
    refine .inl (get?_set_of_ne ?_ _)
    rintro rfl
    exact hl' hwritten

/-- Taking away what is no directory writes there and nowhere else. -/
theorem frame_erase (hwritten : written l) : Frame made written fs (fs.erase l) where
  workingDirectory := workingDirectory_erase ..
  directory _ := directory_erase
  elsewhere l' hl' := by
    refine .inl (get?_erase_of_ne ?_)
    rintro rfl
    exact hl' hwritten

/-! ## Settled paths -/

/-- Each `..` of a path stands behind directories that are there. -/
def Settled (fs : FileSystem) (p : Path) : Prop :=
  ∃ before after, p.names = before ++ after ∧ Path.up ∉ after ∧
    fs.Passable (fs.startOf p) before ∧
    fs.get? ((fs.startOf p).walk before) = some .directory

/-- A settled path stays settled: the directories that its `..` stand behind are still there. -/
theorem Settled.of_frame (h : fs.Settled p) (hf : Frame made written fs fs') : fs'.Settled p := by
  obtain ⟨before, after, hnames, hup, hpass, hdir⟩ := h
  refine ⟨before, after, hnames, hup, ?_⟩
  rw [hf.startOf]
  exact ⟨hf.passable hpass, hf.directory _ hdir⟩

/-- A path without `..` is settled. -/
theorem settled_of_not_mem (hup : Path.up ∉ p.names) : fs.Settled p :=
  ⟨[], p.names, rfl, hup, trivial, get?_startOf fs p⟩

/-- Names that can be walked along split where the last `..` is: what is before leads to a
directory, and what is behind only leads down from there. -/
theorem split_passable (hl : fs.get? l = some .directory) {names : List Text}
    (hpass : fs.Passable l names) :
    ∃ before after, names = before ++ after ∧ Path.up ∉ after ∧
      fs.Passable l before ∧ fs.get? (l.walk before) = some .directory := by
  induction names using List.reverseRecOn with
  | nil => exact ⟨[], [], rfl, List.not_mem_nil, trivial, hl⟩
  | append_singleton names name ih =>
    obtain ⟨hinit, hdir, -⟩ := passable_append.1 hpass
    by_cases hup : name = Path.up
    · refine ⟨names ++ [name], [], (List.append_nil _).symm, List.not_mem_nil, hpass, ?_⟩
      rw [Location.walk_concat, hup, Location.step_up]
      exact get?_parent hdir
    · obtain ⟨before, after, hnames, hafter, hrest⟩ := ih hinit
      refine ⟨before, after ++ [name], by rw [hnames, List.append_assoc], ?_, hrest⟩
      rw [List.mem_append, not_or, List.mem_singleton]
      exact ⟨hafter, Ne.symm hup⟩

/-- A path where something is found is settled. -/
theorem settled_of_entryAt? {entry : Entry} (he : fs.entryAt? p = some entry) : fs.Settled p :=
  split_passable (get?_startOf fs p) (entryAt?_eq_some.1 he).2.1

/-- No directory that is missing on the way to the end of a settled path is at its end. -/
theorem Settled.target_ne (h : fs.Settled p) (hway : (fs.startOf p).OnWay p.parent.names l)
    (hnone : fs.get? l = none) : fs.target p ≠ l := by
  obtain ⟨before, after, hnames, hup, hpass, hdir⟩ := h
  obtain ⟨names, hprefix, rfl⟩ := hway
  intro htarget
  have hlen := hprefix.length_le
  rw [Path.parent, List.length_dropLast, hnames, List.length_append] at hlen
  have hprefix' : names <+: before ++ after := hnames ▸ hprefix.trans (List.dropLast_prefix _)
  -- along `before` there are directories, so the missing one lies behind it
  rcases List.prefix_or_prefix_of_prefix hprefix' (List.prefix_append before after) with
    ⟨rest, rfl⟩ | ⟨rest, rfl⟩
  · rw [hpass.directory_of_prefix hdir] at hnone
    cases hnone
  · have hup' : Path.up ∉ rest := fun hmem =>
      hup (((List.prefix_append_right_inj before).1 hprefix').subset hmem)
    have hdepth := congrArg Location.depth htarget
    rw [target, hnames, Location.walk_append, Location.walk_append, Location.depth_walk hup,
      Location.depth_walk hup'] at hdepth
    rw [List.length_append] at hlen
    have hempty : rest = [] := List.eq_nil_of_length_eq_zero (by omega)
    rw [hempty, List.append_nil, hdir] at hnone
    cases hnone

/-- **What is found at a settled path stays** when directories are made on the way to it
and files are written elsewhere. -/
theorem entryAt?_eq_of_frame (hs : fs.Settled p)
    (hf : Frame ((fs.startOf p).OnWay p.parent.names) written fs fs')
    (hw : ¬ written (fs.target p)) :
    fs'.entryAt? p = fs.entryAt? p := by
  have hsame : fs'.get? (fs.target p) = fs.get? (fs.target p) := by
    rcases hf.elsewhere _ hw with hsame | ⟨hway, hnone, -⟩
    · exact hsame
    · exact absurd rfl (hs.target_ne hway hnone)
  have hpassable : ∀ entry, fs.get? (fs.target p) = some entry →
      (fs'.Passable (fs.startOf p) p.names ↔ fs.Passable (fs.startOf p) p.names) := by
    refine fun entry he => ⟨fun hpass => ?_, hf.passable⟩
    obtain ⟨before, after, hnames, hup, hbefore, hdir⟩ := hs
    have hfits := hpass.nameFits
    rw [target, hnames, Location.walk_append] at he
    rw [hnames] at hfits ⊢
    exact passable_append.2 ⟨hbefore,
      passable_of_get?_walk hup (fun n hn => hfits n (List.mem_append_right _ hn)) he⟩
  refine Option.ext fun entry => ?_
  rw [entryAt?_eq_some, entryAt?_eq_some, hf.startOf, hf.target, hsame]
  constructor
  · rintro ⟨hlong, hpass, he⟩
    exact ⟨hlong, (hpassable entry he).1 hpass, he⟩
  · rintro ⟨hlong, hpass, he⟩
    exact ⟨hlong, (hpassable entry he).2 hpass, he⟩

end FileSystem
end Hotspot
