/-
# Trees of directories and files

A file system is a finite map from locations to entries in which whatever is anywhere is
in a directory, and the working directory is one. A `FileSystem` carries the proof of it:
an entry is put where there is no directory and where there is one above, and what is
removed is no directory. Elsewhere putting and removing change nothing; the calls of a
program find out before that they are refused there.
-/

import Hotspot.FileSystem.Path

namespace Hotspot

/-- What is at a location. -/
inductive Entry
  | directory
  | file (content : Bytes) (mode : Nat)
  deriving DecidableEq, Repr

/-- A place in the tree: the names from it up to the root, and how many they are,
which tells most places apart. -/
structure Location where
  depth : Nat
  names : List Bytes
  depth_eq : depth = names.length
  deriving DecidableEq, Repr

namespace Location

/-- The location of names from it up to the root. -/
def ofNames (names : List Bytes) : Location := ⟨names.length, names, rfl⟩

/-- The root of the tree. -/
def root : Location := .ofNames []

/-- The location of a name below another one. -/
def child (l : Location) (name : Bytes) : Location :=
  ⟨l.depth + 1, name :: l.names, by simp [l.depth_eq]⟩

/-- The location above another one. The root is above itself. -/
def parent (l : Location) : Location :=
  ⟨l.depth - 1, l.names.tail, by simp [l.depth_eq]⟩

/-- A location is at or below another one. -/
def isAtOrBelow (l above : Location) : Bool :=
  above.names.isSuffixOf l.names

end Location

/-- Entries at locations. Of two at one location the first one counts. -/
abbrev Entries := List (Location × Entry)

namespace Entries

variable {es : Entries} {l workingDirectory : Location}

/-- What is at a location. The root is always a directory. -/
def get? (es : Entries) (l : Location) : Option Entry :=
  if l = .root then some .directory else es.lookup l

/-- Takes away what is at a location. -/
def erase (es : Entries) (l : Location) : Entries :=
  es.filter fun e => e.1 ≠ l

/-- Puts an entry at a location. -/
def set (es : Entries) (l : Location) (entry : Entry) : Entries :=
  (l, entry) :: es.erase l

/-- Only the root is a directory whatever the entries are. -/
theorem ne_root_of_get? (h : es.get? l ≠ some .directory) : l ≠ .root := by
  rintro rfl
  exact h (if_pos rfl)

/-- What is taken away is not found any more, and all else is found as before. -/
theorem lookup_erase (es : Entries) (l l' : Location) :
    (es.erase l).lookup l' = if l' = l then none else es.lookup l' := by
  rw [erase]
  induction es with
  | nil => simp
  | cons e es ih =>
    obtain ⟨k, entry⟩ := e
    by_cases hk : k = l
    · rw [List.filter_cons_of_neg (by simp [hk]), ih, hk]
      split
      · rfl
      · next h => rw [List.lookup_cons, beq_eq_false_iff_ne.2 h]
    · rw [List.filter_cons_of_pos (by simp [hk]), List.lookup_cons, List.lookup_cons, ih]
      by_cases hl : l' = k
      · subst hl
        simp only [beq_self_eq_true, if_neg hk]
      · rw [beq_eq_false_iff_ne.2 hl]

/-- Nothing is left at a location alone. -/
theorem get?_erase (h : es.get? l ≠ some .directory) (l' : Location) :
    (es.erase l).get? l' = if l' = l then none else es.get? l' := by
  simp only [get?, lookup_erase]
  by_cases hr : l' = .root
  · rw [if_pos hr, if_pos hr, if_neg (hr ▸ (ne_root_of_get? h).symm)]
  · rw [if_neg hr, if_neg hr]

/-- An entry is put at a location alone. -/
theorem get?_set (h : es.get? l ≠ some .directory) (entry : Entry) (l' : Location) :
    (es.set l entry).get? l' = if l' = l then some entry else es.get? l' := by
  simp only [get?, set, List.lookup_cons, lookup_erase]
  by_cases hr : l' = .root
  · rw [if_pos hr, if_pos hr, if_neg (hr ▸ (ne_root_of_get? h).symm)]
  · rw [if_neg hr, if_neg hr]
    by_cases hl : l' = l
    · subst hl
      simp only [beq_self_eq_true, ↓reduceIte]
    · rw [beq_eq_false_iff_ne.2 hl, if_neg hl, if_neg hl]

/-- The working directory is one, and what is anywhere is in a directory. -/
structure IsTree (es : Entries) (workingDirectory : Location) : Prop where
  workingDirectory : es.get? workingDirectory = some .directory
  parent : ∀ l entry, es.get? l = some entry → es.get? l.parent = some .directory

/-- Where an entry is listed something is, though maybe not that entry. -/
theorem exists_get?_of_mem {e : Location × Entry} (h : e ∈ es) :
    ∃ entry, es.get? e.1 = some entry := by
  rw [get?]
  split
  · exact ⟨_, rfl⟩
  · rw [← Option.isSome_iff_exists, List.lookup_isSome_iff]
    exact ⟨e, h, BEq.rfl⟩

/-- It is enough to look above the entries. -/
theorem isTree_iff : es.IsTree workingDirectory ↔
    es.get? workingDirectory = some .directory ∧
      ∀ e ∈ es, es.get? e.1.parent = some .directory := by
  refine ⟨fun h => ⟨h.workingDirectory, fun e he => ?_⟩, fun ⟨hwd, hparent⟩ => ⟨hwd, ?_⟩⟩
  · obtain ⟨entry, hentry⟩ := exists_get?_of_mem he
    exact h.parent _ _ hentry
  · intro l entry hl
    rw [get?] at hl
    split at hl
    · next hroot =>
      rw [hroot]
      exact if_pos rfl
    · obtain ⟨before, after, hes, -⟩ := List.lookup_eq_some_iff.1 hl
      exact hparent (l, entry) (by rw [hes]; simp)

instance : Decidable (es.IsTree workingDirectory) := decidable_of_iff _ isTree_iff.symm

/-- Putting an entry into a directory leaves a tree, where no directory is replaced. -/
theorem IsTree.set (h : es.IsTree workingDirectory) (hdir : es.get? l ≠ some .directory)
    (hparent : es.get? l.parent = some .directory) (entry : Entry) :
    (es.set l entry).IsTree workingDirectory := by
  have hkept {l' : Location} (hl' : es.get? l' = some .directory) :
      (es.set l entry).get? l' = some .directory := by
    rwa [get?_set hdir, if_neg]
    rintro rfl
    exact hdir hl'
  refine ⟨hkept h.workingDirectory, fun l' entry' hl' => hkept ?_⟩
  rw [get?_set hdir] at hl'
  split at hl'
  · next heq => rwa [heq]
  · exact h.parent _ _ hl'

/-- Removing what is no directory leaves a tree. -/
theorem IsTree.erase (h : es.IsTree workingDirectory) (hdir : es.get? l ≠ some .directory) :
    (es.erase l).IsTree workingDirectory := by
  have hkept {l' : Location} (hl' : es.get? l' = some .directory) :
      (es.erase l).get? l' = some .directory := by
    rwa [get?_erase hdir, if_neg]
    rintro rfl
    exact hdir hl'
  refine ⟨hkept h.workingDirectory, fun l' entry hl' => hkept ?_⟩
  rw [get?_erase hdir] at hl'
  split at hl'
  · cases hl'
  · exact h.parent _ _ hl'

end Entries

/-- A file system: the working directory, and what is where, which is a tree. -/
structure FileSystem where
  workingDirectory : Location
  entries : Entries
  isTree : entries.IsTree workingDirectory := by decide
  deriving DecidableEq, Repr

namespace FileSystem

/-- The file system of a working directory and entries, if they are a tree. -/
def ofEntries? (workingDirectory : Location) (entries : Entries) : Option FileSystem :=
  if isTree : entries.IsTree workingDirectory then some { workingDirectory, entries, isTree }
  else none

/-- What is at a location. -/
def get? (fs : FileSystem) (l : Location) : Option Entry :=
  fs.entries.get? l

/-- Takes away what is at a location, unless that is a directory. -/
def erase (fs : FileSystem) (l : Location) : FileSystem :=
  if h : fs.get? l ≠ some .directory then
    { fs with entries := fs.entries.erase l, isTree := fs.isTree.erase h }
  else fs

/-- Puts an entry at a location in a directory, unless there is a directory. -/
def set (fs : FileSystem) (l : Location) (entry : Entry) : FileSystem :=
  if h : fs.get? l ≠ some .directory ∧ fs.get? l.parent = some .directory then
    { fs with entries := fs.entries.set l entry, isTree := fs.isTree.set h.1 h.2 entry }
  else fs

end FileSystem
end Hotspot
