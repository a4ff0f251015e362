/-
# What the lines of a template say

A line starts with a key or says nothing, and the line ends in it are dropped before its
value is read. So it matters neither how a line ends nor whether it does, and an empty line
says nothing. The lines of a template then say what its pieces say, which are parted at every
`CR` and at every `LF` (`said_lines`):

| template | lines | pieces |
| --- | --- | --- |
| `k:1 LF` | `k:1 LF` | `k:1`, empty |
| `k:1 CR LF k:2` | `k:1 CR LF`, `k:2` | `k:1`, empty, `k:2` |
| `k:1 CR k:2` | `k:1 CR`, `k:2` | `k:1`, `k:2` |

Pieces, unlike lines, are those of the part before a line end and those of the part after it.
-/

import Hotspot.Concurrency
import Hotspot.Proofs.Text.Utf8Replacing

namespace Hotspot
namespace Concurrency

open Text (isLineEnd)

variable {c : Concurrency} {line ends : Text} {lines others : List Text}

/-! ## Directives -/

/-- The setting after a directive, unless it ends the reading. -/
def obey (c : Concurrency) : Directive → Except TooLong Concurrency
  | .tooLong digits => .error ⟨digits⟩
  | d => .ok (c.apply d)

/-- The directives of lines; lines that say nothing have none. -/
def said (lines : List Text) : List Directive :=
  (lines.map Directive.ofLine).filter (· ≠ .none)

/-- A line that says nothing may be left out. -/
theorem said_cons_of_none (h : Directive.ofLine line = .none) : said (line :: lines) = said lines :=
  List.filter_cons_of_neg (by simp [h])

/-- A line that says something is said first. -/
theorem said_cons_of_ne (h : Directive.ofLine line ≠ .none) :
    said (line :: lines) = Directive.ofLine line :: said lines :=
  List.filter_cons_of_pos (decide_eq_true h)

/-- What lines say one after the other is what they say. -/
theorem said_append (lines others : List Text) :
    said (lines ++ others) = said lines ++ said others := by
  rw [said, List.map_append, List.filter_append]
  rfl

/-- A line has a part in what lines say through its directive. -/
theorem said_cons_congr {other : Text} (h : Directive.ofLine line = Directive.ofLine other)
    (hs : said lines = said others) : said (line :: lines) = said (other :: others) := by
  by_cases hnone : Directive.ofLine other = .none
  · rw [said_cons_of_none hnone, said_cons_of_none (h.trans hnone), hs]
  · rw [said_cons_of_ne hnone, said_cons_of_ne (h ▸ hnone), h, hs]

/-- The first line is obeyed, and the others are read after it. -/
theorem readLines_cons (c : Concurrency) (line : Text) (lines : List Text) :
    c.readLines (line :: lines) =
      (c.obey (Directive.ofLine line) >>= fun c' => c'.readLines lines) := by
  rw [readLines]
  cases Directive.ofLine line <;> rfl

/-- **Lines are read as the directives that they say**, one after the other. -/
theorem readLines_eq_foldlM (c : Concurrency) (lines : List Text) :
    c.readLines lines = (said lines).foldlM obey c := by
  induction lines generalizing c with
  | nil => rfl
  | cons line lines ih =>
    rw [readLines_cons]
    by_cases h : Directive.ofLine line = .none
    · rw [said_cons_of_none h, h, ← ih]
      rfl
    · rw [said_cons_of_ne h, List.foldlM_cons]
      simp only [ih]

/-- Where as much is said, as much is read. -/
theorem readLines_congr (c : Concurrency) (h : said lines = said others) :
    c.readLines lines = c.readLines others := by
  rw [readLines_eq_foldlM, readLines_eq_foldlM, h]

/-- Of two groups of lines the second one is read after the first. -/
theorem readLines_append (c : Concurrency) (lines others : List Text) :
    c.readLines (lines ++ others) = (c.readLines lines >>= fun c' => c'.readLines others) := by
  simp only [readLines_eq_foldlM, said_append, List.foldlM_append]

/-- Lines that are read one at a time say what they say together. -/
theorem readEach_eq_readLines (c : Concurrency) (lines : List Text) :
    c.readEach lines = c.readLines lines := by
  induction lines generalizing c with
  | nil => rfl
  | cons line lines ih =>
    have happend := readLines_append c [line] lines
    rw [List.singleton_append] at happend
    rw [happend, readEach, List.foldlM_cons]
    exact bind_congr ih

/-- Lines are read to their end if none of them ends the reading. -/
theorem exists_readLines :
    (∃ c', c.readLines lines = .ok c') ↔ ∀ line ∈ lines, endsReading line = false := by
  induction lines generalizing c with
  | nil => simp [readLines]
  | cons line lines ih =>
    rw [readLines, List.forall_mem_cons, endsReading]
    cases Directive.ofLine line with
    | tooLong digits => simp
    | _ => simp [ih]

/-! ## Line ends -/

/-- No key has a line end in it. -/
theorem isLineEnd_of_mem_start {k : Key} {x : CodePoint} (h : x ∈ k.start) :
    isLineEnd x = false := by
  have hall : (k.start.all fun x => !isLineEnd x) = true := by cases k <;> decide
  exact Bool.not_eq_true' _ ▸ List.all_eq_true.1 hall x h

/-- Where no code point of a text is a line end, whether it starts a line is settled before
the ends of the line. -/
theorem isPrefixOf_append_ends {start : Text} (hstart : ∀ x ∈ start, isLineEnd x = false)
    (hends : ∀ x ∈ ends, isLineEnd x = true) :
    start.isPrefixOf (line ++ ends) = start.isPrefixOf line := by
  induction start generalizing line with
  | nil => simp
  | cons x start ih =>
    obtain ⟨hx, hstart⟩ := List.forall_mem_cons.1 hstart
    cases line with
    | nil =>
      cases ends with
      | nil => rfl
      | cons y ends =>
        have hy : isLineEnd y = true := hends y List.mem_cons_self
        have hne : (x == y) = false := by
          rw [beq_eq_false_iff_ne]
          rintro rfl
          exact Bool.false_ne_true (hx.symm.trans hy)
        rw [List.nil_append, List.isPrefixOf_cons_cons, hne, Bool.false_and]
        rfl
    | cons y line =>
      rw [List.cons_append, List.isPrefixOf_cons_cons, List.isPrefixOf_cons_cons, ih hstart]

/-- How a line ends has no part in what it says. -/
theorem ofLine_append_ends (h : ∀ x ∈ ends, isLineEnd x = true) :
    Directive.ofLine (line ++ ends) = Directive.ofLine line := by
  have hkey : Key.ofLine? (line ++ ends) = Key.ofLine? line := by
    rw [Key.ofLine?, Key.ofLine?]
    congr 1
    funext k
    exact isPrefixOf_append_ends (fun _ => isLineEnd_of_mem_start) h
  have hdropped (n : Nat) : ((ends.drop n).filter fun x => !isLineEnd x) = [] := by
    rw [List.filter_eq_nil_iff]
    intro x hx
    rw [h x (List.mem_of_mem_drop hx)]
    decide
  have hvalue (k : Key) : k.value (line ++ ends) = k.value line := by
    rw [Key.value, List.drop_append, List.filter_append, hdropped, List.append_nil, Key.value]
  rw [Directive.ofLine, Directive.ofLine, hkey]
  simp only [hvalue]

/-- An empty line says nothing. -/
theorem ofLine_nil : Directive.ofLine [] = .none := rfl

/-- Nor do line ends alone. -/
theorem ofLine_ends (h : ∀ x ∈ ends, isLineEnd x = true) : Directive.ofLine ends = .none := by
  rw [← List.nil_append ends, ofLine_append_ends h, ofLine_nil]

/-! ## Lines and pieces -/

/-- Lines follow a first piece and others: the first line is that piece but for its ends, and
the others say what the other pieces say. -/
structure Follow (lines : List Text) (piece : Text) (pieces : List Text) : Prop where
  first : ∃ ends, (∀ x ∈ ends, isLineEnd x = true) ∧ lines.headD [] = piece ++ ends
  others : said lines.tail = said pieces

/-- Lines that follow some pieces say what the pieces do, since a line end at the end of a line
says nothing. -/
theorem Follow.said_eq {piece : Text} {pieces : List Text} (h : Follow lines piece pieces) :
    said lines = said (piece :: pieces) := by
  obtain ⟨⟨ends, hends, hfirst⟩, hothers⟩ := h
  have hpiece : Directive.ofLine (lines.headD []) = Directive.ofLine piece := by
    rw [hfirst, ofLine_append_ends hends]
  cases lines with
  | nil => rw [said_cons_of_none (hpiece.symm.trans ofLine_nil), ← hothers, List.tail_nil]
  | cons line lines => exact said_cons_congr hpiece hothers

/-- A line of ends alone is an empty piece. -/
theorem Follow.ofEnds {pieces : List Text} (hends : ∀ x ∈ ends, isLineEnd x = true)
    (h : said lines = said pieces) : Follow (ends :: lines) [] pieces :=
  ⟨⟨ends, hends, rfl⟩, h⟩

/-- A character in front of the first line is one in front of the first piece. -/
theorem Follow.cons {piece : Text} {pieces : List Text} {x : CodePoint}
    (hx : isLineEnd x = false) (h : Follow lines piece pieces) :
    Follow (Text.addToLines x lines) (x :: piece) pieces := by
  obtain ⟨⟨ends, hends, hfirst⟩, hothers⟩ := h
  obtain ⟨hLF, hCR⟩ : ¬x = 0x0A ∧ ¬x = 0x0D := by simpa [isLineEnd] using hx
  unfold Text.addToLines
  rw [if_neg hLF, if_neg hCR]
  refine ⟨⟨ends, hends, ?_⟩, ?_⟩
  · rw [List.cons_append, ← hfirst]
    cases lines <;> rfl
  · rw [← hothers]
    cases lines <;> rfl

/-- A line end in front starts a new piece, and whether it starts a new line makes no
difference. -/
theorem Follow.lineEnd {piece : Text} {pieces : List Text} {x : CodePoint}
    (hx : isLineEnd x = true) (h : Follow lines piece pieces) :
    Follow (Text.addToLines x lines) [] (piece :: pieces) := by
  have hx' : x = 0x0A ∨ x = 0x0D := by simpa [isLineEnd] using hx
  unfold Text.addToLines
  split
  · next hLF => exact .ofEnds (by simp [hLF, isLineEnd]) h.said_eq
  · next hLF =>
    rw [if_pos (hx'.resolve_left hLF)]
    split
    · next rest =>
      -- the `LF` that the `CR` takes in was a line of its own, but one that says nothing
      refine .ofEnds (by simp [hx'.resolve_left hLF, isLineEnd]) ?_
      rw [← h.said_eq, said_cons_of_none (ofLine_ends (by simp [isLineEnd]))]
    · exact .ofEnds (by simp [hx'.resolve_left hLF, isLineEnd]) h.said_eq

/-- The lines of a text follow its pieces between line ends, by induction on the text. -/
theorem follow_lines (t : Text) :
    ∃ piece pieces,
      t.splitOnP isLineEnd = piece :: pieces ∧ Follow (Text.lines t) piece pieces := by
  induction t with
  | nil => exact ⟨[], [], List.splitOnP_nil, ⟨[], List.forall_mem_nil _, rfl⟩, rfl⟩
  | cons x t ih =>
    obtain ⟨piece, pieces, hpieces, h⟩ := ih
    rw [List.splitOnP_cons_eq_if_modifyHead, hpieces]
    cases hx : isLineEnd x with
    | true => exact ⟨[], piece :: pieces, rfl, h.lineEnd hx⟩
    | false => exact ⟨x :: piece, pieces, rfl, h.cons hx⟩

/-- **A template says what its pieces say.** -/
theorem said_lines (t : Text) : said (Text.lines t) = said (t.splitOnP isLineEnd) := by
  obtain ⟨piece, pieces, hpieces, h⟩ := follow_lines t
  rw [hpieces, h.said_eq]

/-- What stands on either side of a line end is read on its own. -/
theorem readLines_lines_append_cons (c : Concurrency) {x : CodePoint} (hx : isLineEnd x = true)
    (t u : Text) :
    c.readLines (Text.lines (t ++ x :: u)) =
      (c.readLines (Text.lines t) >>= fun c' => c'.readLines (Text.lines u)) := by
  have hsaid : said (Text.lines (t ++ x :: u)) = said (Text.lines t ++ Text.lines u) := by
    rw [said_lines, List.splitOnP_append_cons _ _ hx, said_append, said_append, said_lines,
      said_lines]
  rw [readLines_congr c hsaid, readLines_append]

end Concurrency
end Hotspot
