/-
# The shape of a file system

What a file holds has no part in what the calls of a replacement do: they ask
where a path leads, and whether a file, a directory or nothing is there. Two file
systems that differ in the contents of their files only (`SameShape`) therefore
stay so, whatever is written to either, and a call that fails fails in both.
-/

import Hotspot.Config.File
import Hotspot.Proofs.FileSystem.Resolution
import Hotspot.Proofs.Lockstep

namespace Hotspot

/-- An entry without its content. -/
def Entry.blank : Entry → Entry
  | .directory => .directory
  | .file _ mode => .file [] mode

namespace FileSystem

variable {fs fs' : FileSystem} {p : Path} {faults : Faults}

/-- The same is at every place of two file systems, but for the contents of files. -/
structure SameShape (fs fs' : FileSystem) : Prop where
  workingDirectory : fs.workingDirectory = fs'.workingDirectory
  blank : ∀ l, (fs.get? l).map Entry.blank = (fs'.get? l).map Entry.blank

/-- What is at a location of two file systems of one shape. -/
inductive SameKind : Option Entry → Option Entry → Prop
  | none : SameKind none none
  | directory : SameKind (some .directory) (some .directory)
  | file (content content' : Bytes) (mode : Nat) :
    SameKind (some (.file content mode)) (some (.file content' mode))

namespace SameShape

/-- A file system has its own shape. -/
theorem refl (fs : FileSystem) : SameShape fs fs := ⟨rfl, fun _ => rfl⟩

/-- Two of one shape have entries of one kind everywhere. -/
theorem get? (h : SameShape fs fs') (l : Location) : SameKind (fs.get? l) (fs'.get? l) := by
  have hblank := h.blank l
  generalize fs.get? l = e, fs'.get? l = e' at hblank
  match e, e' with
  | none, none => exact .none
  | some .directory, some .directory => exact .directory
  | some (.file content mode), some (.file content' mode') =>
    obtain rfl : mode = mode' := by simpa [Entry.blank] using hblank
    exact .file content content' mode

/-- The directories are the same. -/
theorem directory_iff (h : SameShape fs fs') (l : Location) :
    fs.get? l = some .directory ↔ fs'.get? l = some .directory := by
  have hl := h.get? l
  generalize fs.get? l = e, fs'.get? l = e' at hl
  cases hl with
  | none | directory => exact Iff.rfl
  | file => exact iff_of_false (by rintro ⟨⟩) (by rintro ⟨⟩)

/-- What can be put in the one can be put in the other. -/
theorem set (h : SameShape fs fs') (l : Location) {e e' : Entry} (he : e.blank = e'.blank) :
    SameShape (fs.set l e) (fs'.set l e') where
  workingDirectory := by
    rw [workingDirectory_set, workingDirectory_set]
    exact h.workingDirectory
  blank l' := by
    by_cases hl : l' = l
    · by_cases hput : fs.get? l ≠ some .directory ∧ fs.get? l.parent = some .directory
      · have hput' := hput
        rw [Ne, h.directory_iff, h.directory_iff] at hput'
        rw [get?_set hput.1 hput.2, get?_set hput'.1 hput'.2, if_pos hl, if_pos hl]
        exact congrArg some he
      · have hput' := hput
        rw [Ne, h.directory_iff, h.directory_iff] at hput'
        rw [FileSystem.set, dif_neg hput, FileSystem.set, dif_neg hput']
        exact h.blank l'
    · rw [get?_set_of_ne hl, get?_set_of_ne hl]
      exact h.blank l'

/-- What can be removed in the one can be removed in the other. -/
theorem erase (h : SameShape fs fs') (l : Location) : SameShape (fs.erase l) (fs'.erase l) where
  workingDirectory := by
    rw [workingDirectory_erase, workingDirectory_erase]
    exact h.workingDirectory
  blank l' := by
    by_cases hl : l' = l
    · by_cases hdir : fs.get? l ≠ some .directory
      · have hdir' := hdir
        rw [Ne, h.directory_iff] at hdir'
        rw [get?_erase hdir, get?_erase hdir', if_pos hl, if_pos hl]
      · have hdir' := hdir
        rw [Ne, h.directory_iff] at hdir'
        rw [FileSystem.erase, dif_neg hdir, FileSystem.erase, dif_neg hdir']
        exact h.blank l'
    · rw [get?_erase_of_ne hl, get?_erase_of_ne hl]
      exact h.blank l'

/-! ## Where a path leads -/

/-- Names lead to the same place or fail for the same reason, since this is a matter of
directories. -/
theorem follow (h : SameShape fs fs') (l : Location) (names : List Text) :
    fs.follow l names = fs'.follow l names := by
  induction names generalizing l with
  | nil => rfl
  | cons name names ih =>
    have hl := h.get? l
    rw [FileSystem.follow, FileSystem.follow]
    generalize fs.get? l = e, fs'.get? l = e' at hl
    cases hl with
    | none => rfl
    | directory => simp only [ih]
    | file => rfl

/-- So does a path. -/
theorem locate (h : SameShape fs fs') (p : Path) : fs.locate p = fs'.locate p := by
  rw [FileSystem.locate, FileSystem.locate, startOf, startOf, h.workingDirectory, h.follow]

/-- The place below another one is the same. -/
theorem placeBelow (h : SameShape fs fs') (above : Place) (name : Text) :
    fs.placeBelow above name = fs'.placeBelow above name := by
  simp only [FileSystem.placeBelow, h.follow]

/-- So are the places along some names. -/
theorem placesFrom (h : SameShape fs fs') (before : List Place) (here : Place)
    (names : List Text) : fs.placesFrom before here names = fs'.placesFrom before here names := by
  induction names generalizing before here with
  | nil => rfl
  | cons name names ih =>
    rw [FileSystem.placesFrom, FileSystem.placesFrom, h.placeBelow, ih]

/-- So are the places along a path. -/
theorem placesAlong (h : SameShape fs fs') (p : Path) : fs.placesAlong p = fs'.placesAlong p := by
  simp only [FileSystem.placesAlong, placeOf, h.locate, h.placesFrom]

end SameShape

/-! ## Calls -/

/-- A call that is made to fail fails on both sides. -/
theorem lockstep_guarded {α : Type} (faults : Faults) (call : Call) {calls calls' : Calls α}
    (h : Lockstep SameShape (· = ·) calls calls') :
    Lockstep SameShape (· = ·) (guarded faults call calls) (guarded faults call calls') := by
  rw [guarded, guarded]
  split
  · exact .throw _
  · exact h

/-- Locating a path ends in the same way on both sides. -/
theorem lockstep_locating (p : Path) :
    Lockstep SameShape (· = ·) (locating p) (locating p) := by
  refine .bind .get fun fs fs' h => ?_
  rw [h.locate]
  split
  · exact .pure rfl
  · exact .throw _

/-- Entries that differ in content alone may be put on the two sides. -/
theorem lockstep_set (l : Location) {e e' : Entry} (he : e.blank = e'.blank) :
    Lockstep SameShape (· = ·) (modify (·.set l e) : Calls Unit) (modify (·.set l e')) :=
  .modify fun _ _ h => h.set l he

/-- Making a directory looks at no content. -/
theorem lockstep_makeDirectory (faults : Faults) (place : Place) (again : Bool) :
    Lockstep SameShape (· = ·) (makeDirectory faults place again)
      (makeDirectory faults place again) := by
  refine lockstep_guarded _ _ ?_
  split
  · exact .throw _
  · next l _ =>
    refine .bind .get fun fs fs' h => ?_
    have hl := h.get? l
    generalize fs.get? l = e, fs'.get? l = e' at hl
    cases hl with
    | none => exact lockstep_set l rfl
    | directory => exact .throw _
    | file => exact .throw _

/-- A file is no directory, whatever it holds. -/
theorem lockstep_isDirectoryAt (faults : Faults) (place : Place) :
    Lockstep SameShape (· = ·) (isDirectoryAt faults place) (isDirectoryAt faults place) := by
  refine .tryCatch (lockstep_guarded _ _ ?_) fun e => ?_
  · split
    · next l _ =>
      refine .bind .get fun fs fs' h => .pure ?_
      have hl := h.get? l
      generalize fs.get? l = e, fs'.get? l = e' at hl
      cases hl with
      | none | directory => rfl
      | file => simp
    · exact .throw _
  · split
    · exact .pure rfl
    · exact .pure rfl
    · exact .throw _

/-- Looking whether a directory is there looks at no content. -/
theorem lockstep_unlessDirectory (faults : Faults) (place : Place) (e : IoError) :
    Lockstep SameShape (· = ·) (unlessDirectory faults place e)
      (unlessDirectory faults place e) := by
  refine .bind_eq (lockstep_isDirectoryAt faults place) fun found => ?_
  cases found with
  | true => exact .pure rfl
  | false => exact .throw _

/-- Nor does making the last one of a way. -/
theorem lockstep_ensureLast (faults : Faults) (place : Place) (again : Bool) :
    Lockstep SameShape (· = ·) (ensureLast faults place again) (ensureLast faults place again) := by
  refine .tryCatch (lockstep_makeDirectory faults place again) fun e => ?_
  split
  · exact .throw _
  · exact lockstep_unlessDirectory faults place e

/-- Nor does making all of a way, by induction on it. -/
theorem lockstep_ensureDirectory (faults : Faults) (place : Place) (way : List Place) :
    Lockstep SameShape (· = ·) (ensureDirectory faults place way)
      (ensureDirectory faults place way) := by
  induction way generalizing place with
  | nil => exact .bind_eq (lockstep_ensureLast faults place false) fun _ => .pure rfl
  | cons next way ih =>
    -- what is above is made only after the directory itself was refused as missing
    refine .tryCatch (.bind_eq (lockstep_makeDirectory faults place false) fun _ => .pure rfl)
      fun e => ?_
    split
    · refine .bind_eq (ih next) fun above => .bind .get fun fs fs' h => ?_
      rw [h.placeBelow]
      exact .bind_eq (lockstep_ensureLast faults _ true) fun _ => .pure rfl
    · exact .throw _
    · exact .bind_eq (lockstep_unlessDirectory faults place _) fun _ => .pure rfl

/-- Opening a file empties it, whatever was in it. -/
theorem lockstep_openEmpty (faults : Faults) (p : Path) :
    Lockstep SameShape (· = ·) (openEmpty faults p) (openEmpty faults p) := by
  refine lockstep_guarded _ _ (.bind_eq (lockstep_locating p) fun l => ?_)
  refine .bind .get fun fs fs' h => ?_
  have hl := h.get? l
  generalize fs.get? l = e, fs'.get? l = e' at hl
  cases hl with
  | none => exact lockstep_set l rfl
  | directory => exact .throw _
  | file => exact lockstep_set l rfl

/-- Files that are filled may be filled with anything. -/
theorem lockstep_fill (p : Path) (content content' : Bytes) :
    Lockstep SameShape (· = ·) (fill p content) (fill p content') := by
  refine .bind_eq (lockstep_locating p) fun l => .bind .get fun fs fs' h => ?_
  have hl := h.get? l
  generalize fs.get? l = e, fs'.get? l = e' at hl
  cases hl with
  | none => exact .pure rfl
  | directory => exact .pure rfl
  | file => exact lockstep_set l rfl

/-- Writing may write different content on the two sides, and fails on both or on none. -/
theorem lockstep_writeAll (faults : Faults) (p : Path) (content content' : Bytes) :
    Lockstep SameShape (· = ·) (writeAll faults p content) (writeAll faults p content') := by
  rw [writeAll, writeAll]
  split
  · exact .bind_eq (lockstep_fill p _ _) fun _ => .throw _
  · exact lockstep_fill p _ _

/-- The mode is changed to the same on both sides. -/
theorem lockstep_changeMode (faults : Faults) (p : Path) (mode : Nat) :
    Lockstep SameShape (· = ·) (changeMode faults p mode) (changeMode faults p mode) := by
  refine lockstep_guarded _ _ (.bind_eq (lockstep_locating p) fun l => ?_)
  refine .bind .get fun fs fs' h => ?_
  have hl := h.get? l
  generalize fs.get? l = e, fs'.get? l = e' at hl
  cases hl with
  | none => exact .throw _
  | directory => exact .pure rfl
  | file => exact lockstep_set l rfl

/-- A file is removed without being read. -/
theorem lockstep_unlink (faults : Faults) (p : Path) :
    Lockstep SameShape (· = ·) (unlink faults p) (unlink faults p) := by
  refine lockstep_guarded _ _ (.bind_eq (lockstep_locating p) fun l => ?_)
  refine .bind .get fun fs fs' h => ?_
  have hl := h.get? l
  generalize fs.get? l = e, fs'.get? l = e' at hl
  cases hl with
  | none => exact .throw _
  | directory => exact .throw _
  | file => exact .modify fun _ _ h => h.erase l

/-- A file is renamed without being read, and takes its own content with it. -/
theorem lockstep_rename (faults : Faults) (source target : Path) :
    Lockstep SameShape (· = ·) (rename faults source target) (rename faults source target) := by
  refine lockstep_guarded _ _ (.bind .get fun fs fs' h => ?_)
  rw [h.locate, h.locate]
  split
  · exact .throw _
  · exact .throw _
  · next s t _ _ =>
    split
    · exact .throw _
    · have hs := h.get? s
      have ht := h.get? t
      generalize fs.get? s = e, fs'.get? s = e' at hs
      generalize fs.get? t = d, fs'.get? t = d' at ht
      cases hs with
      | none => exact .throw _
      | directory =>
        cases ht with
        | directory => exact .throw _
        | none => exact .modify fun _ _ h => (h.erase s).set t rfl
        | file => exact .modify fun _ _ h => (h.erase s).set t rfl
      | file =>
        cases ht with
        | directory => exact .throw _
        | none => exact .modify fun _ _ h => (h.erase s).set t rfl
        | file => exact .modify fun _ _ h => (h.erase s).set t rfl

/-- Failures that are ignored are the same on both sides. -/
theorem lockstep_ignoring {calls calls' : Calls Unit}
    (h : Lockstep SameShape (· = ·) calls calls') :
    Lockstep SameShape (· = ·) (ignoring calls) (ignoring calls') :=
  .tryCatch h fun _ => .pure rfl

/-- A file is replaced in step, whatever it is to hold. -/
theorem lockstep_replaceBy (faults : Faults) (temporary target : Path)
    (content content' : Bytes) :
    Lockstep SameShape (· = ·) (replaceBy faults temporary target content)
      (replaceBy faults temporary target content') := by
  refine .tryCatch (.bind_eq (lockstep_openEmpty faults temporary) fun _ =>
    .bind_eq (lockstep_writeAll faults temporary content content') fun _ =>
    .bind_eq (lockstep_guarded _ _ (.pure rfl)) fun _ =>
    .bind_eq (lockstep_ignoring (lockstep_guarded _ _ (.pure rfl))) fun _ =>
    .bind_eq (lockstep_changeMode faults temporary _) fun _ =>
    lockstep_rename faults temporary target) fun e => ?_
  exact .bind_eq (lockstep_ignoring (lockstep_unlink faults temporary)) fun _ => .throw _

end FileSystem

/-! ## Configurations -/

namespace Config

open FileSystem (SameShape)

/-- Whether a path ends in a name has nothing to do with the files. -/
theorem lockstep_requireName (p : Path) :
    Lockstep SameShape (· = ·) (requireName p) (requireName p) := by
  rw [requireName]
  split
  · exact .throw _
  · exact .pure rfl

/-- The directories of a path are made in step. -/
theorem lockstep_ensureDirectories (faults : Faults) (p : Path) :
    Lockstep SameShape (· = ·) (ensureDirectories faults p) (ensureDirectories faults p) := by
  refine .bind .get fun fs fs' h => ?_
  rw [h.placesAlong]
  dsimp only
  split
  · exact .throw _
  · exact .bind_eq (.adaptExcept (FileSystem.lockstep_ensureDirectory faults _ _)) fun _ =>
      .pure rfl

/-- Two results are both refusals, for the same reason, or neither is one. -/
def SameRefusal {α : Type} : Except EncodeError α → Except EncodeError α → Prop
  | .ok _, .ok _ => True
  | .error e, .error e' => e = e'
  | _, _ => False

/-- Two configurations that have bytes, or are refused for the same reason, are stored in
step. -/
theorem lockstep_store {c c' : Config} (h : SameRefusal c.encode c'.encode) (faults : Faults)
    (p : Path) : Lockstep SameShape (· = ·) (store faults p c) (store faults p c') := by
  rw [store, store]
  generalize c.encode = result, c'.encode = result' at h
  match result, result' with
  | .error e, .error e' =>
    obtain rfl := h
    exact .throw _
  | .ok bytes, .ok bytes' =>
    dsimp only
    split
    · exact .throw _
    · exact .bind_eq (lockstep_requireName _) fun _ =>
        .bind_eq (lockstep_ensureDirectories faults _) fun _ =>
        .bind_eq (lockstep_requireName _) fun _ =>
        .adaptExcept (FileSystem.lockstep_replaceBy faults _ _ bytes bytes')

end Config
end Hotspot
