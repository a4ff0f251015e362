/-
# Where a path leads

Following a path looks at directories alone: each place on the way has to be one,
and no name may be too long (`Passable`). Where it leads is then a matter of the
names: down to a child, or up with `..` (`Location.walk`). So two file systems
with the same directories lead every path to the same place, whatever files they
hold.

`FileSystem.target` is the place that a path leads to once its directories are
there, and `FileSystem.entryAt?` what is found at a path, which is nothing where
the way is broken off.
-/

import Hotspot.FileSystem.Replace

namespace Hotspot

/-! ## Locations and names -/

namespace Location

/-- The location that a name leads to. -/
def step (l : Location) (name : Text) : Location :=
  if name = Path.up then l.parent else l.child (Path.bytes name)

/-- The location that names lead to. -/
def walk (l : Location) (names : List Text) : Location :=
  names.foldl step l

@[simp] theorem walk_nil (l : Location) : l.walk [] = l := rfl

@[simp] theorem walk_cons (l : Location) (name : Text) (names : List Text) :
    l.walk (name :: names) = (l.step name).walk names := rfl

/-- Names one after the other are walked one after the other. -/
theorem walk_append (l : Location) (names others : List Text) :
    l.walk (names ++ others) = (l.walk names).walk others := List.foldl_append

/-- So the last name is the last step. -/
theorem walk_concat (l : Location) (names : List Text) (name : Text) :
    l.walk (names ++ [name]) = (l.walk names).step name := walk_append ..

/-- A location that names lead to or pass. -/
def OnWay (l : Location) (names : List Text) (l' : Location) : Prop :=
  ∃ before, before <+: names ∧ l' = l.walk before

/-- Any name but `..` leads down. -/
theorem step_of_ne {name : Text} (h : name ≠ Path.up) (l : Location) :
    l.step name = l.child (Path.bytes name) := if_neg h

@[simp] theorem step_up (l : Location) : l.step Path.up = l.parent := if_pos rfl

@[simp] theorem parent_child (l : Location) (name : Bytes) : (l.child name).parent = l := rfl

/-- A step down is one deeper. -/
theorem depth_child (l : Location) (name : Bytes) : (l.child name).depth = l.depth + 1 := rfl

/-- A step up is one less deep, but for the root. -/
theorem depth_parent (l : Location) : l.parent.depth = l.depth - 1 := rfl

/-- Two names below one location are told apart by what they lead to. -/
theorem child_injective {l : Location} {name other : Bytes} (h : l.child name = l.child other) :
    name = other :=
  (List.cons.inj (congrArg Location.names h)).1

/-- Names other than `..` lead one deeper each. -/
theorem depth_walk {names : List Text} (h : Path.up ∉ names) (l : Location) :
    (l.walk names).depth = l.depth + names.length := by
  induction names generalizing l with
  | nil => rfl
  | cons name names ih =>
    rw [List.mem_cons, not_or] at h
    rw [walk_cons, ih h.2, step_of_ne (Ne.symm h.1), depth_child, List.length_cons]
    omega

end Location

/-- A name that is not too long to be followed. -/
def Path.NameFits (name : Text) : Prop :=
  name = Path.up ∨ (Path.bytes name).length ≤ nameLimit

namespace FileSystem

variable {fs fs' : FileSystem} {l : Location}

/-- Nothing but the root. -/
def bare : FileSystem where
  workingDirectory := .root
  entries := []

/-! ## Changing one location -/

/-- The root is there in every file system. -/
@[simp] theorem get?_root (fs : FileSystem) : fs.get? .root = some .directory := by
  rw [get?, Entries.get?, if_pos rfl]

/-- There is a directory above whatever is anywhere. -/
theorem get?_parent {entry : Entry} (h : fs.get? l = some entry) :
    fs.get? l.parent = some .directory :=
  fs.isTree.parent l entry h

/-- Where no directory is, taking away leaves nothing there, and all else as it was. -/
theorem get?_erase (h : fs.get? l ≠ some .directory) (l' : Location) :
    (fs.erase l).get? l' = if l' = l then none else fs.get? l' := by
  rw [erase, dif_pos h]
  exact Entries.get?_erase h l'

/-- In a directory, and where no directory is, putting an entry leaves it there, and all else as
it was. -/
theorem get?_set (hdir : fs.get? l ≠ some .directory) (hparent : fs.get? l.parent = some .directory)
    (entry : Entry) (l' : Location) :
    (fs.set l entry).get? l' = if l' = l then some entry else fs.get? l' := by
  rw [set, dif_pos ⟨hdir, hparent⟩]
  exact Entries.get?_set hdir entry l'

/-- Taking away does not move the working directory. -/
theorem workingDirectory_erase (fs : FileSystem) (l : Location) :
    (fs.erase l).workingDirectory = fs.workingDirectory := by
  rw [erase]
  split <;> rfl

/-- Nor does putting. -/
theorem workingDirectory_set (fs : FileSystem) (l : Location) (entry : Entry) :
    (fs.set l entry).workingDirectory = fs.workingDirectory := by
  rw [set]
  split <;> rfl

/-- Elsewhere nothing changes. -/
theorem get?_erase_of_ne {l' : Location} (h : l' ≠ l) : (fs.erase l).get? l' = fs.get? l' := by
  by_cases hdir : fs.get? l ≠ some .directory
  · rw [get?_erase hdir, if_neg h]
  · rw [erase, dif_neg hdir]

/-- Elsewhere nothing changes, whether or not the entry could be put. -/
theorem get?_set_of_ne {l' : Location} (h : l' ≠ l) (entry : Entry) :
    (fs.set l entry).get? l' = fs.get? l' := by
  by_cases hput : fs.get? l ≠ some .directory ∧ fs.get? l.parent = some .directory
  · rw [get?_set hput.1 hput.2, if_neg h]
  · rw [set, dif_neg hput]

/-- A file is no directory. -/
theorem ne_directory_of_file {content : Bytes} {mode : Nat}
    (h : fs.get? l = some (.file content mode)) : fs.get? l ≠ some .directory := by
  rw [h]
  nofun

/-- Nothing is no directory. -/
theorem ne_directory_of_none (h : fs.get? l = none) : fs.get? l ≠ some .directory := by
  rw [h]
  nofun

/-- Directories stay whatever is put anywhere. -/
theorem directory_set (entry : Entry) {l' : Location} (h : fs.get? l' = some .directory) :
    (fs.set l entry).get? l' = some .directory := by
  by_cases hl : l' = l
  · have hput : ¬ (fs.get? l ≠ some .directory ∧ fs.get? l.parent = some .directory) :=
      fun hput => hput.1 (hl ▸ h)
    rwa [set, dif_neg hput]
  · rwa [get?_set_of_ne hl]

/-- Directories stay whatever is removed. -/
theorem directory_erase {l' : Location} (h : fs.get? l' = some .directory) :
    (fs.erase l).get? l' = some .directory := by
  by_cases hl : l' = l
  · have hkept : ¬ fs.get? l ≠ some .directory := fun hne => hne (hl ▸ h)
    rwa [erase, dif_neg hkept]
  · rwa [get?_erase_of_ne hl]

/-! ## Following names -/

/-- Each place on the way of names is a directory, and each name can be followed. -/
def Passable (fs : FileSystem) : Location → List Text → Prop
  | _, [] => True
  | l, name :: names => fs.get? l = some .directory ∧ Path.NameFits name ∧
    Passable fs (l.step name) names

/-- Names are followed just if they can be walked along, and then to where they lead. -/
theorem follow_eq_ok {names : List Text} {l' : Location} :
    fs.follow l names = .ok l' ↔ fs.Passable l names ∧ l' = l.walk names := by
  induction names generalizing l with
  | nil => simp [follow, Passable, eq_comm]
  | cons name names ih =>
    rw [follow, Passable, Location.walk_cons]
    match hl : fs.get? l with
    | none => simp
    | some (.file ..) => simp
    | some .directory =>
      by_cases hup : name = Path.up
      · simp [hup, ih, Path.NameFits]
      · rw [Location.step_of_ne hup, Path.NameFits]
        by_cases hlen : nameLimit < (Path.bytes name).length
        · simp [hup, hlen, Nat.not_le.2 hlen]
        · simp [hup, hlen, ih, Nat.le_of_not_lt hlen]

/-- Names can be walked along just if their beginning can, and the rest from there. -/
theorem passable_append {names others : List Text} :
    fs.Passable l (names ++ others) ↔ fs.Passable l names ∧ fs.Passable (l.walk names) others := by
  induction names generalizing l with
  | nil => simp [Passable]
  | cons name names ih => simp [Passable, ih, and_assoc]

/-- More directories let the same names through. -/
theorem Passable.mono {names : List Text} (h : fs.Passable l names)
    (hd : ∀ l, fs.get? l = some .directory → fs'.get? l = some .directory) :
    fs'.Passable l names := by
  induction names generalizing l with
  | nil => trivial
  | cons name names ih => exact ⟨hd _ h.1, h.2.1, ih h.2.2⟩

/-- A name that was passed is not too long. -/
theorem Passable.nameFits {names : List Text} (h : fs.Passable l names) :
    ∀ name ∈ names, Path.NameFits name := by
  induction names generalizing l with
  | nil => exact fun _ h => absurd h List.not_mem_nil
  | cons name names ih =>
    intro other hmem
    rcases List.mem_cons.1 hmem with rfl | hmem
    · exact h.2.1
    · exact ih h.2.2 other hmem

/-- On the way to a directory there are directories only. -/
theorem Passable.directory_of_prefix {names others : List Text}
    (h : fs.Passable l (names ++ others))
    (hd : fs.get? (l.walk (names ++ others)) = some .directory) :
    fs.get? (l.walk names) = some .directory := by
  cases others with
  | nil => rwa [List.append_nil] at hd
  | cons name others => exact (passable_append.1 h).2.1

/-! ## Paths -/

/-- The location that a path leads to where all directories on the way are there. -/
def target (fs : FileSystem) (p : Path) : Location :=
  (fs.startOf p).walk p.names

/-- What is found at a path. -/
def entryAt? (fs : FileSystem) (p : Path) : Option Entry :=
  (fs.entry? p).toOption

/-- What is found at a path is what a look at it gives. -/
theorem entry?_of_entryAt? {p : Path} {entry : Entry} (h : fs.entryAt? p = some entry) :
    fs.entry? p = .ok entry := by
  rw [entryAt?] at h
  cases hentry : fs.entry? p with
  | error e =>
    rw [hentry] at h
    cases h
  | ok found =>
    rw [hentry] at h
    rw [Option.some.inj h]

/-- Every path starts in a directory: the root or the working directory. -/
theorem get?_startOf (fs : FileSystem) (p : Path) : fs.get? (fs.startOf p) = some .directory := by
  rw [startOf]
  split
  · exact fs.isTree.workingDirectory
  · exact get?_root fs

/-- A path is located if its text is not too long and its names can be walked along, and then at
its target. -/
theorem locate_eq_ok {p : Path} {l : Location} :
    fs.locate p = .ok l ↔
      isTooLong p = false ∧ fs.Passable (fs.startOf p) p.names ∧ l = fs.target p := by
  rw [locate, target]
  cases isTooLong p <;> simp [follow_eq_ok]

/-- An entry is found at a path if the path is located and the entry is at its target. -/
theorem entryAt?_eq_some {p : Path} {entry : Entry} :
    fs.entryAt? p = some entry ↔
      isTooLong p = false ∧ fs.Passable (fs.startOf p) p.names ∧
        fs.get? (fs.target p) = some entry := by
  have h : fs.entryAt? p = some entry ↔ ∃ l, fs.locate p = .ok l ∧ fs.get? l = some entry := by
    rw [entryAt?, entry?]
    cases fs.locate p with
    | error e => simp [bind, Except.bind, Except.toOption]
    | ok l =>
      cases hl : fs.get? l <;> simp [bind, Except.bind, Except.toOption, pure, Except.pure, throw,
        throwThe, MonadExceptOf.throw, hl]
  rw [h]
  constructor
  · rintro ⟨l, hl, he⟩
    obtain ⟨hlong, hpass, rfl⟩ := locate_eq_ok.1 hl
    exact ⟨hlong, hpass, he⟩
  · rintro ⟨hlong, hpass, he⟩
    exact ⟨_, locate_eq_ok.2 ⟨hlong, hpass, rfl⟩, he⟩

end FileSystem
end Hotspot
