/-
# Names that can be handed over and looked for

A path can be handed over if its names can (`Path.nameFault?_eq_none`). So can the
directories above it then, and a path beside it whose name has a suffix that can.
What is at a path can be looked for unless the path or a name has too many bytes
(`FileSystem.exists_probe`): that something on the way is missing, or is a file, is an
answer.
-/

import Hotspot.FileSystem.Basic
import Mathlib.Tactic.SplitIfs

namespace Hotspot

/-! ## Handing over -/

namespace Path

variable {p : Path}

/-- A code point that can stand in a file name: no `NUL`, and no surrogate but one that
stands for a byte. -/
def CanStand (c : CodePoint) : Prop :=
  c ≠ 0 ∧ (c.isSurrogate && !isByteSurrogate c) = false

instance (c : CodePoint) : Decidable (CanStand c) :=
  inferInstanceAs (Decidable (_ ∧ _))

/-- No fault is found in a text just if each surrogate of it stands for a byte. -/
theorem surrogatesFrom?_eq_none {offset : Nat} {t : Text} :
    surrogatesFrom? offset t = none ↔ ∀ c ∈ t, (c.isSurrogate && !isByteSurrogate c) = false := by
  induction t generalizing offset with
  | nil => simp [surrogatesFrom?]
  | cons c t ih =>
    rw [surrogatesFrom?, List.forall_mem_cons]
    cases h : c.isSurrogate && !isByteSurrogate c with
    | true => simp
    | false => simp [ih]

/-- A path can be handed over just if each code point of its text can stand in a name. -/
theorem nameFault?_eq_none_iff : p.nameFault? = none ↔ ∀ c ∈ p.text, CanStand c := by
  have hsplit : (∀ c ∈ p.text, CanStand c) ↔
      surrogatesFrom? 0 p.text = none ∧ p.text.contains 0 = false := by
    rw [surrogatesFrom?_eq_none, List.contains_eq_mem, decide_eq_false_iff_not]
    constructor
    · exact fun h => ⟨fun c hc => (h c hc).2, fun h0 => (h 0 h0).1 rfl⟩
    · exact fun h c hc => ⟨fun h0 => h.2 (h0 ▸ hc), h.1 c hc⟩
  rw [hsplit, nameFault?]
  cases surrogatesFrom? 0 p.text with
  | some fault => simp
  | none => cases p.text.contains 0 <;> simp

/-- What holds of the separator holds of joined texts just if it holds of each of them. -/
theorem forall_mem_joinWith {P : CodePoint → Prop} {separator : Text}
    (hs : ∀ c ∈ separator, P c) {pieces : List Text} :
    (∀ c ∈ Text.joinWith separator pieces, P c) ↔ ∀ piece ∈ pieces, ∀ c ∈ piece, P c := by
  induction pieces with
  | nil => simp [Text.joinWith]
  | cons piece pieces ih =>
    cases pieces with
    | nil => simp [Text.joinWith]
    | cons next pieces =>
      rw [Text.joinWith, List.intercalate_cons_cons, List.forall_mem_append,
        List.forall_mem_append, List.forall_mem_cons]
      exact ⟨fun h => ⟨h.1.1, ih.1 h.2⟩, fun h => ⟨⟨h.1, hs⟩, ih.2 h.2⟩⟩

/-- What holds of a slash and of a dot holds of the text of a path just if it holds of its
names. -/
theorem forall_mem_text {P : CodePoint → Prop} (hslash : P 0x2F) (hdot : P 0x2E) :
    (∀ c ∈ p.text, P c) ↔ ∀ name ∈ p.names, ∀ c ∈ name, P c := by
  have hs : ∀ c ∈ Text.ofString "/", P c := List.forall_mem_singleton.2 hslash
  have hss : ∀ c ∈ Text.ofString "//", P c :=
    List.forall_mem_cons.2 ⟨hslash, List.forall_mem_singleton.2 hslash⟩
  rw [← forall_mem_joinWith hs, text]
  cases p.start with
  | here =>
    by_cases hnames : p.names = []
    · rw [hnames]
      exact iff_of_true (List.forall_mem_singleton.2 hdot) nofun
    · simp [hnames]
  | root => exact List.forall_mem_append.trans (and_iff_right hs)
  | doubleRoot => exact List.forall_mem_append.trans (and_iff_right hss)

/-- A path can be handed over if its names can. -/
theorem nameFault?_eq_none :
    p.nameFault? = none ↔ ∀ name ∈ p.names, ∀ c ∈ name, CanStand c := by
  rw [nameFault?_eq_none_iff, forall_mem_text (by decide) (by decide)]

/-- Where a path can be handed over so can the one above it, which has fewer names. -/
theorem nameFault?_parent (h : p.nameFault? = none) : p.parent.nameFault? = none :=
  nameFault?_eq_none.2 fun name hname =>
    nameFault?_eq_none.1 h name (List.dropLast_subset _ hname)

/-- So can the one with a suffix, if the suffix may stand in a name. -/
theorem nameFault?_addSuffix {suffix : Text} (hsuffix : ∀ c ∈ suffix, CanStand c)
    (h : p.nameFault? = none) {q : Path} (hq : p.addSuffix? suffix = some q) :
    q.nameFault? = none := by
  obtain ⟨last, hlast, rfl⟩ := Option.map_eq_some_iff.1 hq
  rw [nameFault?_eq_none] at h ⊢
  refine List.forall_mem_append.2 ⟨fun name hname => h name (List.dropLast_subset _ hname),
    List.forall_mem_singleton.2 (List.forall_mem_append.2 ⟨?_, hsuffix⟩)⟩
  exact h last (List.mem_of_getLast? hlast)

end Path

/-! ## Looking for files -/

namespace FileSystem

variable {fs : FileSystem} {p : Path}

/-- Something at a path can be looked for: the path cannot be handed over at all, which
counts as nothing found, or neither it nor a name on the way has too many bytes. -/
def CanLookFor (fs : FileSystem) (p : Path) : Prop :=
  p.nameFault?.isSome = true ∨ fs.locate p ≠ .error .nameTooLong

/-- Following names fails for one of three reasons, which are the ones a probe passes over but
for the last. -/
theorem follow_eq_error {l : Location} {names : List Text} {reason : Errno}
    (h : fs.follow l names = .error reason) :
    reason = .noEntry ∨ reason = .notDirectory ∨ reason = .nameTooLong := by
  induction names generalizing l with
  | nil => cases h
  | cons name names ih =>
    rw [follow] at h
    split at h
    · cases h
      exact .inl rfl
    · cases h
      exact .inr (.inl rfl)
    · split_ifs at h
      · exact ih h
      · cases h
        exact .inr (.inr rfl)
      · exact ih h

/-- So does locating a path, whose text may be too long as a whole. -/
theorem locate_eq_error {reason : Errno} (h : fs.locate p = .error reason) :
    reason = .noEntry ∨ reason = .notDirectory ∨ reason = .nameTooLong := by
  rw [locate] at h
  split_ifs at h
  · cases h
    exact .inr (.inr rfl)
  · exact follow_eq_error h

/-- A probe gives an answer just if the path can be looked for. -/
theorem exists_probe {test : Entry → Bool} :
    (∃ found, fs.probe p test = .ok found) ↔ fs.CanLookFor p := by
  rw [probe, CanLookFor]
  by_cases hfault : p.nameFault?.isSome = true
  · rw [if_pos hfault]
    exact iff_of_true ⟨false, rfl⟩ (.inl hfault)
  · rw [if_neg hfault, or_iff_right hfault, entry?]
    cases hlocate : fs.locate p with
    | ok l => cases hl : fs.get? l <;> simp [bind, Except.bind, pure, Except.pure, throw, throwThe,
        MonadExceptOf.throw, hl]
    | error reason =>
      rcases locate_eq_error hlocate with rfl | rfl | rfl <;> simp [bind, Except.bind]

end FileSystem

end Hotspot
