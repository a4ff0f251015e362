/-
# What a channel list says

A channel list is one text with commas or an array, and both are read entry by entry. What an
entry says is told by its text alone:

| entry | says |
| --- | --- |
| an integer literal, with any blanks around it | that channel |
| anything else: nothing, blanks, no literal, a numeral of over 4300 digits | nothing |

No literal has a comma, so entries without one may be joined with commas and are read as they
were before. So channels come back in order, however they are written and whatever stands
between them.

Trimming an entry drops the separators `1C … 1F` as well, which the reading of integers does
not drop. So an entry with one of these around a literal is no literal by itself, and yet it
is a channel.
-/

import Hotspot.Channels
import Hotspot.Proofs.Text.Literals

namespace Hotspot

/-! ## Pieces -/

namespace Text

variable {pieces : List Text} {separator : CodePoint} {t u : Text}

/-- Splitting is the one of the library, whose laws are used below. -/
theorem splitOn_eq (separator : CodePoint) (t : Text) :
    splitOn separator t = List.splitOn separator t := by
  induction t with
  | nil => rfl
  | cons c t ih =>
    obtain ⟨piece, rest, hpieces⟩ := List.exists_cons_of_ne_nil
      (List.splitOnP_ne_nil (fun x => x == separator) t)
    rw [List.splitOn] at ih
    rw [List.splitOn, List.splitOnP_cons_eq_if_modifyHead, ← ih, splitOn, List.foldr_cons,
      ← splitOn]
    simp only [beq_iff_eq]
    split
    · rfl
    · rw [ih, hpieces]
      rfl

/-- Pieces without the separator are what their joined text is split into. -/
theorem splitOn_joinWith (hne : pieces ≠ []) (h : ∀ piece ∈ pieces, separator ∉ piece) :
    splitOn separator (joinWith [separator] pieces) = pieces := by
  rw [splitOn_eq, joinWith]
  exact List.splitOn_intercalate separator h hne

/-- A text is split where it is put together. -/
theorem splitOn_append (separator : CodePoint) (t u : Text) :
    splitOn separator (t ++ separator :: u) = splitOn separator t ++ splitOn separator u := by
  rw [splitOn_eq, splitOn_eq, splitOn_eq]
  exact List.splitOnP_append_cons t u (beq_self_eq_true separator)

end Text

namespace Channels

open Text (IsLiteral)

variable {entry : Text} {entries : List Text} {xs : List Int} {x : Int}

/-! ## One entry -/

/-- A literal with blanks around it is a channel. -/
theorem number?_of_isLiteral (h : IsLiteral CodePoint.isBlank entry x) :
    (ChannelEntry.ofText entry).number? = some x := by
  have hint := Text.toInt?_trim.2 h
  have hempty : Text.toInt? [] = none := by decide
  have hsome : entry.trim.isEmpty = false := by
    rw [List.isEmpty_eq_false_iff]
    intro hnil
    rw [hnil, hempty] at hint
    cases hint
  rw [ChannelEntry.ofText]
  simp only [hsome, Bool.false_eq_true, if_false, hint]
  rfl

/-- Whatever is no literal is no channel. -/
theorem number?_of_not_isLiteral (h : ∀ x, ¬IsLiteral CodePoint.isBlank entry x) :
    (ChannelEntry.ofText entry).number? = none := by
  have hint : entry.trim.toInt? = none := by
    rw [Option.eq_none_iff_forall_ne_some]
    exact fun x hx => h x (Text.toInt?_trim.1 hx)
  rw [ChannelEntry.ofText]
  simp only [hint]
  split <;> rfl

/-- No literal has a comma in it. -/
theorem comma_notMem_of_isLiteral (h : IsLiteral CodePoint.isBlank entry x) : 0x2C ∉ entry := by
  intro hmem
  have hnone : (0x2C : CodePoint).digit? = none := by decide
  rcases h.of_mem hmem with hblank | ⟨d, hdigit⟩ | hother
  · exact absurd hblank (by decide)
  · rw [hnone] at hdigit
    cases hdigit
  · exact absurd hother (by decide)

/-! ## Entries -/

/-- Entries list channels in order: an entry is the next channel in decimal, with blanks around
it or without, or something without a comma that is nothing of that kind. -/
inductive Lists : List Text → List Int → Prop
  | nil : Lists [] []
  | channel {entry : Text} {x : Int} {entries : List Text} {xs : List Int}
    (h : IsLiteral CodePoint.isBlank entry x) (hrest : Lists entries xs) :
    Lists (entry :: entries) (x :: xs)
  | skipped {entry : Text} {entries : List Text} {xs : List Int} (hcomma : 0x2C ∉ entry)
    (h : ∀ x, ¬IsLiteral CodePoint.isBlank entry x) (hrest : Lists entries xs) :
    Lists (entry :: entries) xs

/-- No entry has a comma in it. -/
theorem Lists.comma_notMem (h : Lists entries xs) : ∀ entry ∈ entries, 0x2C ∉ entry := by
  induction h with
  | nil => exact List.forall_mem_nil _
  | channel h _ ih => exact List.forall_mem_cons.2 ⟨comma_notMem_of_isLiteral h, ih⟩
  | skipped hcomma _ _ ih => exact List.forall_mem_cons.2 ⟨hcomma, ih⟩

/-- What is listed is read. -/
theorem Lists.ofTexts (h : Lists entries xs) : ofTexts entries = xs := by
  induction h with
  | nil => rfl
  | channel h _ ih =>
    rw [← ih]
    exact List.filterMap_cons_some (number?_of_isLiteral h)
  | skipped _ h _ ih =>
    rw [← ih]
    exact List.filterMap_cons_none (number?_of_not_isLiteral h)

/-- Integers within the limit list themselves. -/
theorem lists_ofInt (h : ∀ x ∈ xs, x.natAbs < 10 ^ 4300) : Lists (xs.map Text.ofInt) xs := by
  induction xs with
  | nil => exact .nil
  | cons x xs ih =>
    rw [List.forall_mem_cons] at h
    have hx : IsLiteral CodePoint.isBlank (Text.ofInt x) x :=
      ⟨[], _, [], (List.append_nil _).symm, List.forall_mem_nil _, List.forall_mem_nil _,
        Text.isDecimal_ofInt h.1⟩
    exact .channel hx (ih h.2)

/-! ## Lists -/

/-- Texts are their own texts. -/
theorem textsOf_map_text (ts : List Text) : Json.textsOf (ts.map .text) = .ok ts := by
  have hshown : (ts.map Json.text).mapM Json.shown? = some ts := by
    rw [List.mapM_map]
    exact (List.mapM_pure (f := id)).trans (congrArg some (List.map_id ts))
  rw [Json.textsOf, hshown]

/-- Integers within the limit are shown in decimal. -/
theorem textsOf_map_int (h : ∀ x ∈ xs, x.natAbs < 10 ^ 4300) :
    Json.textsOf (xs.map .int) = .ok (xs.map Text.ofInt) := by
  have hshown : (xs.map Json.int).mapM Json.shown? = some (xs.map Text.ofInt) := by
    induction xs with
    | nil => rfl
    | cons x xs ih =>
      rw [List.forall_mem_cons] at h
      have hx : (Json.int x).shown? = Text.ofInt? x := rfl
      rw [List.map_cons, List.mapM_cons, hx, Text.ofInt?_of_lt h.1, ih h.2]
      rfl
  rw [Json.textsOf, hshown]

/-- An array lists what its texts do. -/
theorem ofList_array {items : List Json} {ts : List Text} (h : Json.textsOf items = .ok ts) :
    ofList (.array items) = .ok (some (ofTexts ts)) := by
  show (Json.textsOf items >>= fun ts => pure (some (ofTexts ts))) = _
  rw [h]
  rfl

/-- The texts of texts are they themselves. -/
theorem ofList_array_text (entries : List Text) :
    ofList (.array (entries.map .text)) = .ok (some (ofTexts entries)) :=
  ofList_array (textsOf_map_text entries)

/-- A text is read as the array of its pieces. -/
theorem ofList_text (t : Text) :
    ofList (.text t) = .ok (some (ofTexts (Text.splitOn 0x2C t))) :=
  ofList_array_text _

/-- Integers that can be shown are listed as they are. -/
theorem ofList_array_int (h : ∀ x ∈ xs, x.natAbs < 10 ^ 4300) :
    ofList (.array (xs.map .int)) = .ok (some xs) := by
  rw [ofList_array (textsOf_map_int h), (lists_ofInt h).ofTexts]

/-- A text lists what its entries do. -/
theorem Lists.ofList_text (h : Lists entries xs) :
    ofList (.text (Text.joinWith [0x2C] entries)) = .ok (some xs) := by
  by_cases hne : entries = []
  · subst hne
    cases h
    rfl
  · rw [Channels.ofList_text, Text.splitOn_joinWith hne h.comma_notMem, h.ofTexts]

/-- **The two forms of a channel list agree and lose nothing.** A text says what the array of
its pieces says, and two texts with a comma between them say what the one and then the other
says. Channels are read back in order from whatever lists them, joined with commas or in an
array, and from the array of the integers. -/
theorem forms_agree :
    (∀ t, ofList (.text t) = ofList (.array ((Text.splitOn 0x2C t).map .text))) ∧
    (∀ t u, ∃ xs ys, ofList (.text t) = .ok (some xs) ∧ ofList (.text u) = .ok (some ys) ∧
      ofList (.text (t ++ 0x2C :: u)) = .ok (some (xs ++ ys))) ∧
    (∀ entries xs, Lists entries xs →
      ofList (.text (Text.joinWith [0x2C] entries)) = .ok (some xs) ∧
      ofList (.array (entries.map .text)) = .ok (some xs)) ∧
    ∀ xs : List Int, (∀ x ∈ xs, x.natAbs < 10 ^ 4300) →
      ofList (.array (xs.map .int)) = .ok (some xs) := by
  refine ⟨fun t => ?_, fun t u => ⟨_, _, ofList_text t, ofList_text u, ?_⟩,
    fun entries xs h => ⟨h.ofList_text, ?_⟩, fun xs h => ofList_array_int h⟩
  · rw [ofList_array_text, ofList_text]
  · rw [ofList_text, Text.splitOn_append, ofTexts, List.filterMap_append]
    rfl
  · rw [ofList_array_text, h.ofTexts]

/-- What is not read as an integer is no literal of one. -/
theorem not_isLiteral_of_toInt? (h : entry.trim.toInt? = none) (x : Int) :
    ¬IsLiteral CodePoint.isBlank entry x := by
  intro hliteral
  rw [Text.toInt?_trim.2 hliteral] at h
  cases h

/-- Numerals with blanks, a plus sign, an underscore and digits of another script, and between
them nothing, a blank, a word and two numbers in one. -/
def mixedEntries : List Text :=
  [" +011", "", "six", "1_1\t", "\u3000", "-\u0663", "1 6"]

/-- They list three channels, the first of them twice. -/
theorem forms_agree_of_mixed :
    Lists mixedEntries [11, 11, -3] ∧
    ofList (.text " +011,,six,1_1\t,\u3000,-\u0663,1 6") = .ok (some [11, 11, -3]) ∧
    ofList (.array (mixedEntries.map .text)) = .ok (some [11, 11, -3]) ∧
    (∀ x ∈ [11, 11, -3], Int.natAbs x < 10 ^ 4300) ∧
    ofList (.array ([11, 11, -3].map .int)) = .ok (some [11, 11, -3]) := by
  have hlists : Lists mixedEntries [11, 11, -3] :=
    .channel (Text.toInt?_trim.1 (by decide))
      (.skipped (by decide) (not_isLiteral_of_toInt? (by decide))
      (.skipped (by decide) (not_isLiteral_of_toInt? (by decide))
      (.channel (Text.toInt?_trim.1 (by decide))
      (.skipped (by decide) (not_isLiteral_of_toInt? (by decide))
      (.channel (Text.toInt?_trim.1 (by decide))
      (.skipped (by decide) (not_isLiteral_of_toInt? (by decide)) .nil))))))
  have hmax : ∀ x ∈ [11, 11, -3], Int.natAbs x < 10 ^ 4300 := by decide +kernel
  obtain ⟨-, -, hread, hint⟩ := forms_agree
  exact ⟨hlists, (hread _ _ hlists).1, (hread _ _ hlists).2, hmax, hint _ hmax⟩

/-- A one after zeros. -/
def paddedOne (zeros : Nat) : Text := List.replicate zeros 0x30 ++ [0x31]

/-- A one with zeros in front has so many digits and one. -/
theorem length_paddedOne (zeros : Nat) : (paddedOne zeros).length = zeros + 1 := by
  rw [paddedOne, List.length_append, List.length_replicate, List.length_singleton]

/-- Its value is one all the same. -/
theorem isDigits_paddedOne (zeros : Nat) : Text.IsDigits (paddedOne zeros) 1 where
  ne_nil := List.append_ne_nil_of_right_ne_nil _ (List.cons_ne_nil _ _)
  range c hc := by
    rcases List.mem_append.1 hc with hc | hc
    · rw [List.eq_of_mem_replicate hc]
      decide
    · rw [List.mem_singleton.1 hc]
      decide
  value := by
    have hzeros : Nat.ofDigits 10 (List.replicate zeros 0) = 0 := by
      induction zeros with
      | zero => rfl
      | succ zeros ih => rw [List.replicate_succ, Nat.ofDigits_cons, ih]
    rw [paddedOne, List.reverse_append, List.reverse_replicate, List.map_append,
      List.map_replicate]
    exact congrArg (1 + 10 * ·) hzeros

/-- An entry may be no literal and yet be a channel, after a separator that is trimmed. And a
small number may be lost, if too many zeros stand before it. -/
theorem channel_of_no_literal :
    (0x2C ∉ [0x1C, 0x35] ∧ (∀ x, ¬IsLiteral Text.isBlankAroundInteger [0x1C, 0x35] x) ∧
      ofList (.text [0x1C, 0x35]) = .ok (some [5])) ∧
    Text.IsDigits (paddedOne 4300) 1 ∧ ofList (.text (paddedOne 4300)) = .ok (some []) := by
  have hdigits := isDigits_paddedOne 4300
  refine ⟨⟨by decide, fun x hx => ?_, rfl⟩, hdigits, ?_⟩
  · have hnone : Text.toInt? [0x1C, 0x35] = none := by decide
    rw [Text.toInt?_iff_isLiteral.2 hx] at hnone
    cases hnone
  · have hlong : 4300 < (paddedOne 4300).length := by
      rw [length_paddedOne]
      decide
    have hcomma : 0x2C ∉ paddedOne 4300 := fun hmem =>
      absurd (hdigits.range _ hmem).1 (by decide)
    have hnone := hdigits.not_isLiteral hlong Text.sparesNumerals_isBlank
    have hread := (Lists.skipped hcomma hnone .nil).ofList_text
    rw [Text.joinWith, List.intercalate_singleton] at hread
    exact hread

end Channels
end Hotspot
