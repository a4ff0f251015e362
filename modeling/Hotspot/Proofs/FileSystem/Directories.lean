/-
# Making the directories of a path

A place carries the location that its path led to when it was looked up. By the
time a directory is made there more directories may be there, never fewer, so
the place still lies where its names lead (`Located`). The places on the way are
those of the path, each without its last name. Hence whatever fails, directories
are made on the way of the path alone, and nothing else is touched.
-/

import Hotspot.Config.File
import Hotspot.Proofs.FileSystem.Frame
import Hotspot.Proofs.Outcome

namespace Hotspot
namespace FileSystem

variable {fs fs' : FileSystem} {start : Location} {written : Location → Prop}

/-! ## Places -/

/-- The location of a place, if it has one, is where directories lead along its names. -/
def Located (fs : FileSystem) (start : Location) (place : Place) : Prop :=
  ∀ l, place.2 = .ok l → fs.Passable start place.1.names ∧ l = start.walk place.1.names

/-- A place stays where it is when directories are made. -/
theorem Located.of_frame {made : Location → Prop} {place : Place} (h : fs.Located start place)
    (hf : Frame made written fs fs') : fs'.Located start place :=
  fun l hl => (h l hl).imp_left hf.passable

/-- The place below one that is located is located, whether or not anything is there. -/
theorem located_placeBelow {above : Place} (h : fs.Located start above) (name : Text) :
    fs.Located start (fs.placeBelow above name) := by
  intro l hl
  cases habove : above.2 with
  | error e =>
    rw [placeBelow, habove] at hl
    cases hl
  | ok l' =>
    rw [placeBelow, habove] at hl
    obtain ⟨hpass, rfl⟩ := h l' habove
    obtain ⟨hlast, rfl⟩ := follow_eq_ok.1 hl
    exact ⟨passable_append.2 ⟨hpass, hlast⟩, (Location.walk_append ..).symm⟩

/-- The whole path has its place. -/
theorem located_placeOf (fs : FileSystem) (p : Path) :
    fs.Located (fs.startOf p) (fs.placeOf p) := by
  intro l hl
  obtain ⟨-, hpass, rfl⟩ := locate_eq_ok.1 hl
  exact ⟨hpass, rfl⟩

/-- A place and those on the way to it, the last one first. -/
def Way (fs : FileSystem) (start : Location) : Place → List Place → Prop
  | place, [] => fs.Located start place
  | place, next :: way =>
    fs.Located start place ∧ next.1.names = place.1.names.dropLast ∧ Way fs start next way

/-- The end of a way is located. -/
theorem Way.located {place : Place} {way : List Place} (h : fs.Way start place way) :
    fs.Located start place := by
  cases way with
  | nil => exact h
  | cons next way => exact h.1

/-- A way stays one while directories are made along it. -/
theorem Way.of_frame {made : Location → Prop} {place : Place} {way : List Place}
    (h : fs.Way start place way) (hf : Frame made written fs fs') : fs'.Way start place way := by
  induction way generalizing place with
  | nil => exact Located.of_frame h hf
  | cons next way ih => exact ⟨h.1.of_frame hf, h.2.1, ih h.2.2⟩

/-- The places along some names are a way, and each name of theirs begins the path: by induction
on the names, with the places passed so far as the invariant. -/
theorem way_placesFrom {here : Place} {before : List Place} (h : fs.Way start here before)
    (names : List Text) :
    let places := fs.placesFrom before here names
    fs.Way start places.1 places.2 ∧ places.1.1.names = here.1.names ++ names := by
  induction names generalizing here before with
  | nil => exact ⟨h, (List.append_nil _).symm⟩
  | cons name names ih =>
    have hbelow : fs.Way start (fs.placeBelow here name) (here :: before) :=
      ⟨located_placeBelow h.located name, List.dropLast_concat.symm, h⟩
    obtain ⟨hway, hnames⟩ := ih hbelow
    exact ⟨hway, hnames.trans (List.append_assoc ..)⟩

/-- So are the places along a path, from where the path starts. -/
theorem way_placesAlong (fs : FileSystem) (p : Path) :
    let places := fs.placesAlong p
    fs.Way (fs.startOf p) places.1 places.2 ∧ places.1.1.names = p.names := by
  rw [placesAlong]
  split
  · exact ⟨located_placeOf fs p, rfl⟩
  · have hbare : fs.Way (fs.startOf p) (fs.placeOf { p with names := [] }) [] :=
      located_placeOf fs { p with names := [] }
    exact way_placesFrom hbare p.names

/-! ## Making directories -/

/-- A call ends as its action does, or is refused and changes nothing. -/
theorem ends_guarded {α : Type} {faults : Faults} {call : Call} {action : Calls α}
    {Q : α → FileSystem → Prop} {E : IoError → FileSystem → Prop}
    (hrefused : ∀ refusal, faults.refuse call = some refusal → E refusal fs)
    (h : faults.refuse call = none → Ends action fs Q E) :
    Ends (guarded faults call action) fs Q E := by
  rw [guarded]
  split
  · next refusal hrefusal => exact .throw (hrefused refusal hrefusal)
  · next hnone => exact h hnone

section Making

variable {faults : Faults} {place : Place} {names : List Text} {again : Bool}

/-- Making a directory makes one on the way at most, whether or not the call fails. -/
theorem ends_makeDirectory (hstart : fs.get? start = some .directory)
    (hplace : fs.Located start place) (hnames : place.1.names <+: names) :
    Ends (makeDirectory faults place again) fs
      (fun _ fs' => Frame (start.OnWay names) written fs fs')
      (fun _ fs' => Frame (start.OnWay names) written fs fs') := by
  refine ends_guarded (fun _ _ => .refl ..) fun _ => ?_
  split
  · exact .throw (.refl ..)
  · next l hl =>
    obtain ⟨hpass, rfl⟩ := hplace l hl
    refine .get_bind ?_
    split
    · exact .throw (.refl ..)
    · next hget =>
      exact .modify (frame_set_directory ⟨_, hnames, rfl⟩ hget (parent_walk hstart hpass))

/-- A look changes nothing. -/
theorem ends_isDirectoryAt (faults : Faults) (place : Place) (fs : FileSystem) :
    Ends (isDirectoryAt faults place) fs (fun _ fs' => fs' = fs) (fun _ fs' => fs' = fs) := by
  refine Ends.tryCatch (E := fun _ fs' => fs' = fs) (ends_guarded (fun _ _ => rfl) fun _ => ?_)
    fun e fs' h => ?_
  · split
    · exact .get_bind (.pure rfl)
    · exact .throw rfl
  · split
    · exact .pure h
    · exact .pure h
    · exact .throw h

/-- Looking whether a directory is there already changes nothing. -/
theorem ends_unlessDirectory {made : Location → Prop} (faults : Faults) (place : Place)
    (e : IoError) (fs : FileSystem) :
    Ends (unlessDirectory faults place e) fs (fun _ fs' => Frame made written fs fs')
      (fun _ fs' => Frame made written fs fs') := by
  refine .bind ((ends_isDirectoryAt faults place fs).mono (fun _ _ h => h) ?_) ?_
  · rintro e fs' rfl
    exact .refl ..
  · rintro found fs' rfl
    cases found with
    | true => exact .pure (.refl ..)
    | false => exact .throw (.refl ..)

/-- Making the last directory of a way makes one on it at most, also when the one above was
missing at first. -/
theorem ends_ensureLast (hstart : fs.get? start = some .directory)
    (hplace : fs.Located start place) (hnames : place.1.names <+: names) :
    Ends (ensureLast faults place again) fs
      (fun _ fs' => Frame (start.OnWay names) written fs fs')
      (fun _ fs' => Frame (start.OnWay names) written fs fs') := by
  refine .tryCatch (ends_makeDirectory hstart hplace hnames) fun e fs' hframe => ?_
  split
  · exact .throw hframe
  · exact (ends_unlessDirectory faults place e fs').mono (fun _ _ => hframe.trans) fun _ _ =>
      hframe.trans

/-- **Only the missing directories on the way are made**, also when making them fails. -/
theorem ends_ensureDirectory {way : List Place} (hstart : fs.get? start = some .directory)
    (hway : fs.Way start place way) (hnames : place.1.names <+: names) :
    Ends (ensureDirectory faults place way) fs
      (fun place' fs' => Frame (start.OnWay names) written fs fs' ∧ fs'.Located start place' ∧
        place'.1.names = place.1.names)
      (fun _ fs' => Frame (start.OnWay names) written fs fs') := by
  induction way generalizing place fs with
  | nil =>
    refine .bind (ends_ensureLast hstart hway hnames) fun _ fs' hframe => ?_
    exact .pure ⟨hframe, hway.of_frame hframe, rfl⟩
  | cons next way ih =>
    obtain ⟨hplace, hnext, hway⟩ := hway
    have hnextNames : next.1.names <+: names := hnext ▸ (List.dropLast_prefix _).trans hnames
    refine .tryCatch (.bind (ends_makeDirectory hstart hplace hnames) fun _ fs' hframe =>
      .pure ⟨hframe, hplace.of_frame hframe, rfl⟩) fun e fs' hframe => ?_
    split
    · next name hname =>
      have hnextWay := ih (hframe.directory _ hstart) (hway.of_frame hframe) hnextNames
      refine (hnextWay.mono (fun _ _ h => h) fun _ _ => hframe.trans).bind
        fun above fs₂ ⟨hframe₂, habove, hsame⟩ => .get_bind ?_
      have hbelow : (fs₂.placeBelow above name).1.names = place.1.names := by
        obtain ⟨before, hbefore⟩ := List.getLast?_eq_some_iff.1 hname
        show above.1.names ++ [name] = _
        rw [hsame, hnext, hbefore, List.dropLast_concat]
      have hlocated := located_placeBelow habove name
      have hbefore := hframe.trans hframe₂
      refine .bind (.mono (ends_ensureLast (hbefore.directory _ hstart) hlocated (hbelow ▸ hnames))
        (fun _ _ h => h) fun _ _ => hbefore.trans) fun _ fs₃ hframe₃ => ?_
      exact .pure ⟨hbefore.trans hframe₃, hlocated.of_frame hframe₃, hbelow⟩
    · exact .throw hframe
    · refine .bind (.mono (ends_unlessDirectory faults place _ fs') (fun _ _ => hframe.trans)
        fun _ _ => hframe.trans) fun _ fs₂ hframe₂ => ?_
      exact .pure ⟨hframe₂, hplace.of_frame hframe₂, rfl⟩

/-- Making the directories of a path makes directories on its way, if anything. -/
theorem ends_ensureDirectories (faults : Faults) (p : Path) :
    Ends (Config.ensureDirectories faults p) fs
      (fun _ fs' => Frame ((fs.startOf p).OnWay p.names) written fs fs')
      (fun _ fs' => Frame ((fs.startOf p).OnWay p.names) written fs fs') := by
  obtain ⟨hway, hnames⟩ := way_placesAlong fs p
  rw [← hnames]
  refine .get_bind ?_
  dsimp only
  split
  · exact .bind (Q := fun _ _ => False) (.throw (.refl ..)) nofun
  · refine .bind (.adaptExcept (ends_ensureDirectory (get?_startOf fs p) hway List.prefix_rfl))
      fun _ _ h => .pure h.1

end Making

end FileSystem
end Hotspot
