/-
# Written scalars read back

A scalar is a value that holds no others and is no double; its integer is within the limit.
Where a member of an object ends, with a comma or with the closing brace, a scalar is read
back as it was written, a text with its pairs joined:

| value | starts with | read as |
| --- | --- | --- |
| `null`, `true`, `false` | its letter | the word |
| an integer | a digit, or `-` and a digit | a number, and no word |
| a text | `"` | a string |

A number has no zero in front, no point and no exponent, and the digits end where the member
does. So the reader takes all of the integer and nothing else.
-/

import Hotspot.Proofs.Json.Strings
import Hotspot.Proofs.Text.Ascii
import Hotspot.Proofs.Text.Numerals
import Mathlib.Data.List.TakeDrop

namespace Hotspot

namespace Text

variable {n : Nat}

/-- A digit below ten is one of the ten characters, and zero only for zero. -/
theorem digitChar_range {d : Nat} (h : d < 10) :
    (0x30 ≤ (CodePoint.ofChar (Nat.digitChar d)).val ∧
      (CodePoint.ofChar (Nat.digitChar d)).val ≤ 0x39) ∧
    (d ≠ 0 → CodePoint.ofChar (Nat.digitChar d) ≠ 0x30) := by
  revert d
  decide

/-- A number starts with a digit, which is zero only for zero. -/
theorem exists_ofNat (n : Nat) : ∃ d rest, ofNat n = d :: rest ∧
    (0x30 ≤ d.val ∧ d.val ≤ 0x39) ∧ (n ≠ 0 → d ≠ 0x30) := by
  induction n using Nat.strong_induction_on with
  | _ n ih =>
    by_cases hn : n < 10
    · refine ⟨CodePoint.ofChar (Nat.digitChar n), [], ?_, digitChar_range hn⟩
      rw [ofNat, Nat.toDigits_eq_if (by decide), if_pos hn]
      rfl
    · obtain ⟨d, rest, hofNat, hrange, hne⟩ := ih (n / 10) (by omega)
      refine ⟨d, rest ++ [CodePoint.ofChar (Nat.digitChar (n % 10))], ?_, hrange,
        fun _ => hne (by omega)⟩
      rw [ofNat, Nat.toDigits_eq_if (by decide), if_neg hn, List.map_append, ← ofNat, hofNat]
      rfl

/-- An integer starts with a minus sign or a digit. -/
theorem exists_ofInt (i : Int) :
    ∃ d rest, ofInt i = d :: rest ∧ (d = 0x2D ∨ 0x30 ≤ d.val ∧ d.val ≤ 0x39) := by
  rw [ofInt]
  split
  · exact ⟨_, _, rfl, .inl rfl⟩
  · obtain ⟨d, rest, hofNat, hrange, -⟩ := exists_ofNat i.natAbs
    exact ⟨d, rest, hofNat, .inr hrange⟩

/-- A sign and a size make the integer again. -/
theorem signed_natAbs (i : Int) : signed (decide (i < 0)) i.natAbs = i := by
  by_cases hneg : i < 0
  · rw [signed, if_pos (decide_eq_true hneg), Int.ofNat_natAbs_of_nonpos (Int.le_of_lt hneg),
      Int.neg_neg]
  · rw [signed, if_neg (by simpa using hneg), Int.natAbs_of_nonneg (Int.not_lt.1 hneg)]

/-- A numeral stays on its line. -/
theorem isOneLine_ofNat (n : Nat) : IsOneLine (ofNat n) := by
  intro c hc
  have hrange := (isDigits_ofNat n).range c hc
  omega

/-- So does one with a sign. -/
theorem isOneLine_ofInt (i : Int) : IsOneLine (ofInt i) := by
  have hminus : 0x20 ≤ (0x2D : CodePoint).val ∧ (0x2D : CodePoint).val ≤ 0x7E := by decide
  rw [ofInt]
  split
  · exact isOneLine_cons.2 ⟨hminus, isOneLine_ofNat _⟩
  · exact isOneLine_ofNat _

end Text

namespace Json

variable {c : Cursor} {d : CodePoint} {x y rest t : Text} {n offset fuel room : Nat} {i : Int}
  {j : Json}

/-- A value that holds no others and is no double, with an integer that can be written. -/
def IsScalar : Json → Prop
  | .null | .bool _ | .text _ => True
  | .int i => i.natAbs < 10 ^ 4300
  | .double _ | .array _ | .object _ => False

/-- A scalar as it is read back. -/
def rejoined : Json → Json
  | .text t => .text t.joinPairs
  | j => j

/-- Where a member of an object ends. -/
inductive EndsMember : Text → Prop
  | comma (rest : Text) : EndsMember (0x2C :: rest)
  | brace (rest : Text) : EndsMember (0x7D :: rest)

/-! ## Integers -/

/-- Where a member ends there is a character, and it is none that goes on with a number. -/
theorem EndsMember.exists_cons (h : EndsMember x) :
    ∃ d rest, x = d :: rest ∧ d.isDigit = false ∧ d ≠ 0x2E ∧ d ≠ 0x65 ∧ d ≠ 0x45 := by
  cases h with
  | comma rest => exact ⟨_, rest, rfl, by decide⟩
  | brace rest => exact ⟨_, rest, rfl, by decide⟩

/-- So there is no fraction. -/
theorem EndsMember.fraction? (h : EndsMember x) : fraction? x = none := by
  cases h <;> rfl

/-- And no exponent. -/
theorem EndsMember.exponent? (h : EndsMember x) : exponent? x = none := by
  cases h <;> rfl

/-- The digits of a number end where the member does. -/
theorem digits_ofNat (n : Nat) (h : EndsMember x) :
    digits (Text.ofNat n ++ x) = (Text.ofNat n, x) := by
  obtain ⟨d, rest, rfl, hd, -⟩ := h.exists_cons
  have hall : ∀ c ∈ Text.ofNat n, c.isDigit = true := by
    intro c hc
    rw [CodePoint.isDigit, Bool.and_eq_true, decide_eq_true_eq, decide_eq_true_eq]
    exact (Text.isDigits_ofNat n).range c hc
  have hnot : ¬d.isDigit = true := by
    rw [hd]
    decide
  rw [digits, List.span_eq_takeWhile_dropWhile, List.takeWhile_append_of_pos hall,
    List.dropWhile_append_of_pos hall, List.takeWhile_cons_of_neg hnot,
    List.dropWhile_cons_of_neg hnot, List.append_nil]

/-- A numeral in front is taken as the integer part, all of it and nothing else. -/
theorem integerPart?_ofNat (n : Nat) (h : EndsMember x) :
    integerPart? (Text.ofNat n ++ x) = some (Text.ofNat n, x) := by
  by_cases hn : n = 0
  · subst hn
    rfl
  · obtain ⟨d, rest, hofNat, -, hne⟩ := Text.exists_ofNat n
    have hdigits := digits_ofNat n h
    rw [hofNat] at hdigits ⊢
    rw [integerPart?.eq_def]
    split
    · next heq => exact absurd (List.cons.inj heq).1 (hne hn)
    · rw [hdigits]

/-- It has the value of the number that it was written for. -/
theorem number_ofNat (n : Nat) : number (Text.ofNat n) = n :=
  (Text.isDigits_iff.1 (Text.isDigits_ofNat n)).2

/-- An integer is read back as a number, and nothing behind it. -/
theorem readNumber_ofInt (hi : i.natAbs < 10 ^ 4300) (h : EndsMember x) (offset : Nat) :
    ∃ after, readNumber ⟨offset, Text.ofInt i ++ x⟩ = .ok (.int i, ⟨after, x⟩) := by
  have hmax : (Text.ofNat i.natAbs).length ≤ 4300 := (Text.length_ofNat_le (by decide)).2 hi
  have hlimit : ¬digitLimit < (Text.ofNat i.natAbs).length := Nat.not_lt.2 hmax
  rw [readNumber]
  split
  next negative t hsign =>
  obtain ⟨rfl, rfl⟩ : negative = decide (i < 0) ∧ t = Text.ofNat i.natAbs ++ x := by
    by_cases hneg : i < 0
    · rw [Text.ofInt, if_pos hneg] at hsign
      obtain ⟨rfl, rfl⟩ := Prod.mk.inj hsign
      exact ⟨(decide_eq_true hneg).symm, rfl⟩
    · -- no digit is a minus sign
      obtain ⟨d, rest, hofNat, hrange, -⟩ := Text.exists_ofNat i.natAbs
      rw [Text.ofInt, if_neg hneg, hofNat] at hsign
      rw [hofNat]
      split at hsign
      · next heq =>
        rw [(List.cons.inj heq).1] at hrange
        exact absurd hrange (by decide)
      · obtain ⟨rfl, rfl⟩ := Prod.mk.inj hsign
        exact ⟨(decide_eq_false hneg).symm, rfl⟩
  simp only [integerPart?_ofNat _ h, h.fraction?, h.exponent?, Option.getD_none, List.isEmpty_nil,
    Bool.not_true, Bool.false_eq_true, if_false, if_true, hlimit, number_ofNat,
    Text.signed_natAbs]
  exact ⟨_, rfl⟩

/-! ## Words -/

/-- An integer has a digit at its start, or behind a minus sign. -/
theorem any_isDigit_ofInt (i : Int) (x : Text) :
    ((Text.ofInt i ++ x).take 2).any CodePoint.isDigit = true := by
  obtain ⟨d, rest, hofNat, hrange, -⟩ := Text.exists_ofNat i.natAbs
  have hdigit : d.isDigit = true := by
    rw [CodePoint.isDigit, Bool.and_eq_true, decide_eq_true_eq, decide_eq_true_eq]
    exact hrange
  rw [Text.ofInt, hofNat, List.any_eq_true]
  split
  · exact ⟨d, List.mem_cons_of_mem _ List.mem_cons_self, hdigit⟩
  · exact ⟨d, List.mem_cons_self, hdigit⟩

/-- No word has a digit there. -/
theorem readAtom_ofInt (i : Int) (offset : Nat) (x : Text) :
    readAtom ⟨offset, Text.ofInt i ++ x⟩ = readNumber ⟨offset, Text.ofInt i ++ x⟩ := by
  have hwords : ∀ w ∈ words, 2 ≤ w.1.length ∧ (w.1.take 2).any CodePoint.isDigit = false := by
    decide
  rw [readAtom]
  split
  · next result hsome =>
    obtain ⟨⟨word, value⟩, hword, hread⟩ := List.exists_of_findSome?_eq_some hsome
    obtain ⟨hmin, hnot⟩ := hwords _ hword
    obtain ⟨after, hskip, -⟩ := Option.map_eq_some_iff.1 hread
    have hstarts : word.isPrefixOf (Text.ofInt i ++ x) = true := by
      rw [Cursor.skipWord?] at hskip
      split at hskip
      · assumption
      · cases hskip
    obtain ⟨rest, hrest⟩ := List.isPrefixOf_iff_prefix.1 hstarts
    have hstart := any_isDigit_ofInt i x
    rw [← hrest, List.take_append_of_le_length hmin, hnot] at hstart
    cases hstart
  · rfl

/-! ## Values -/

/-- What starts with no quote and no bracket is a word or a number. -/
theorem readValue_of_atom (hquote : d ≠ 0x22) (hbrace : d ≠ 0x7B) (hbracket : d ≠ 0x5B) :
    readValue (fuel + 1) room ⟨offset, d :: t⟩ = readAtom ⟨offset, d :: t⟩ := by
  rw [readValue.eq_def]
  split
  · next heq => cases heq
  · dsimp only
    split
    · next heq => exact absurd (List.cons.inj heq).1 hquote
    · next heq => exact absurd (List.cons.inj heq).1 hbrace
    · next heq => exact absurd (List.cons.inj heq).1 hbrace
    · next heq => exact absurd (List.cons.inj heq).1 hbracket
    · next heq => exact absurd (List.cons.inj heq).1 hbracket
    · cases ‹fuel + 1 = _›
      rfl

/-- A text is read back with its pairs joined, whatever is behind it. -/
theorem readValue_writeText (t : Text) (x : Text) : ∃ after,
    readValue (fuel + 1) room ⟨offset, writeText t ++ x⟩ = .ok (.text t.joinPairs, ⟨after, x⟩) := by
  obtain ⟨after, hafter⟩ := readString_writeText t (offset + 1) x
  refine ⟨after, ?_⟩
  rw [writeText, List.cons_append, List.cons_append, List.append_assoc, List.singleton_append,
    readValue, hafter]
  · rfl
  · rfl

/-- An integer is read back where a member ends, if it has no more digits than may be read. -/
theorem readValue_ofInt (hi : i.natAbs < 10 ^ 4300) (h : EndsMember x) : ∃ after,
    readValue (fuel + 1) room ⟨offset, Text.ofInt i ++ x⟩ = .ok (.int i, ⟨after, x⟩) := by
  obtain ⟨d, rest, hofInt, hd⟩ := Text.exists_ofInt i
  have hne {k : CodePoint} (hk : k ≠ 0x2D ∧ ¬(0x30 ≤ k.val ∧ k.val ≤ 0x39)) : d ≠ k := by
    rintro rfl
    exact hd.elim hk.1 hk.2
  obtain ⟨after, hafter⟩ := readNumber_ofInt hi h offset
  refine ⟨after, ?_⟩
  rw [← hafter, ← readAtom_ofInt, hofInt, List.cons_append,
    readValue_of_atom (hne (by decide)) (hne (by decide)) (hne (by decide))]

/-- **A written scalar is read back**, and the reader is behind it. -/
theorem readValue_writeAt (hj : j.IsScalar) (h : EndsMember x) (layout : Layout)
    (level fuel room offset : Nat) :
    ∃ after, readValue (fuel + 1) room ⟨offset, j.writeAt layout level ++ x⟩ =
      .ok (j.rejoined, ⟨after, x⟩) := by
  match j, hj with
  | .null, _ => exact ⟨_, (readValue_of_atom (by decide) (by decide) (by decide)).trans rfl⟩
  | .bool true, _ => exact ⟨_, (readValue_of_atom (by decide) (by decide) (by decide)).trans rfl⟩
  | .bool false, _ => exact ⟨_, (readValue_of_atom (by decide) (by decide) (by decide)).trans rfl⟩
  | .int i, hi => exact readValue_ofInt hi h
  | .text t, _ => exact readValue_writeText t x

/-- A written scalar starts with no white space. -/
theorem exists_writeAt (hj : j.IsScalar) (layout : Layout) (level : Nat) :
    ∃ d rest, j.writeAt layout level = d :: rest ∧ Cursor.isSpace d = false := by
  match j, hj with
  | .null, _ => exact ⟨_, _, rfl, by decide⟩
  | .bool true, _ => exact ⟨_, _, rfl, by decide⟩
  | .bool false, _ => exact ⟨_, _, rfl, by decide⟩
  | .text t, _ => exact ⟨_, _, rfl, by decide⟩
  | .int i, _ =>
    obtain ⟨d, rest, hofInt, hd⟩ := Text.exists_ofInt i
    refine ⟨d, rest, hofInt, ?_⟩
    have hspace : ∀ k, Cursor.isSpace k = true → k ≠ 0x2D ∧ ¬(0x30 ≤ k.val ∧ k.val ≤ 0x39) := by
      intro k hk
      simp only [Cursor.isSpace, Bool.or_eq_true, decide_eq_true_eq] at hk
      rcases hk with ((rfl | rfl) | rfl) | rfl <;> decide
    rw [← Bool.not_eq_true]
    exact fun hk => hd.elim (hspace d hk).1 (hspace d hk).2

/-- A written scalar is on one line. -/
theorem isOneLine_writeAt (hj : j.IsScalar) (layout : Layout) (level : Nat) :
    (j.writeAt layout level).IsOneLine := by
  have hword (word : Text) (h : word.all fun c => 0x20 ≤ c.val && c.val ≤ 0x7E) :
      word.IsOneLine := by
    intro c hc
    have hrange := List.all_eq_true.1 h c hc
    rwa [Bool.and_eq_true, decide_eq_true_eq, decide_eq_true_eq] at hrange
  match j, hj with
  | .null, _ => exact hword "null" (by decide)
  | .bool true, _ => exact hword "true" (by decide)
  | .bool false, _ => exact hword "false" (by decide)
  | .int i, _ => exact Text.isOneLine_ofInt i
  | .text t, _ => exact isOneLine_writeText t

end Json
end Hotspot
