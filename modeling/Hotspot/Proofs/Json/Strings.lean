/-
# Written strings read back

Between quotes a code point is written as itself or as an escape, and a supplementary one as
the escapes of its two surrogates. So what is written of a text is written of its 16-bit units:

| unit | written | read |
| --- | --- | --- |
| `"`, `\`, `0A`, `0D`, `09`, `0C`, `08` | `\"`, `\\`, `\n`, `\r`, `\t`, `\f`, `\b` | the unit |
| `20 … 7E` otherwise | itself | itself |
| a high surrogate before a low one | two escapes | their supplementary code point |
| any other | `\uXXXX` | the unit |

The reader takes a high surrogate together with the escape after it only if that one is a low
surrogate. So the units are read back with pairs joined, which is the text with pairs joined,
and the string ends with the quote that was written last, whatever the text has in it.
-/

import Hotspot.Json.Reader
import Hotspot.Json.Writer
import Hotspot.Proofs.Text.Hexadecimal
import Hotspot.Proofs.Text.Pairing

namespace Hotspot

/-- A text of ASCII code points that can be printed: it is on one line. -/
def Text.IsOneLine (t : Text) : Prop := ∀ c ∈ t, 0x20 ≤ c.val ∧ c.val ≤ 0x7E

namespace Text

variable {t u : Text} {c : CodePoint} {n : Nat}

@[simp] theorem isOneLine_nil : IsOneLine [] := List.forall_mem_nil _

@[simp] theorem isOneLine_cons :
    IsOneLine (c :: t) ↔ (0x20 ≤ c.val ∧ c.val ≤ 0x7E) ∧ IsOneLine t := List.forall_mem_cons

@[simp] theorem isOneLine_append : IsOneLine (t ++ u) ↔ IsOneLine t ∧ IsOneLine u :=
  List.forall_mem_append

/-! ## Hexadecimal digits -/

/-- A digit is a printable character. -/
theorem hexDigit_range {d : Nat} (h : d < 16) :
    0x20 ≤ (hexDigit d).val ∧ (hexDigit d).val ≤ 0x7E := by
  revert d
  decide

/-- A number of 16 bits is written with four digits. -/
theorem ofHex_four (h : n < 0x10000) : ofHex 4 n =
    [hexDigit (n / 0x1000), hexDigit (n / 0x100 % 16), hexDigit (n / 0x10 % 16),
      hexDigit (n % 16)] := by
  have hdiv₂ : n / 16 / 16 = n / 0x100 := Nat.div_div_eq_div_mul ..
  have hdiv₃ : n / 0x100 / 16 = n / 0x1000 := Nat.div_div_eq_div_mul ..
  have hlead : n / 0x1000 % 16 = n / 0x1000 := Nat.mod_eq_of_lt (by omega)
  rw [ofHex_eq_hexDigits (by decide) h]
  simp only [hexDigits, hdiv₂, hdiv₃, hlead, List.nil_append, List.cons_append]

end Text

namespace Json

open Text (IsOneLine hexDigit)

variable {t x rest : Text} {c high low : CodePoint} {start offset : Nat} {done : Text}

/-! ## One code point -/

/-- A digit is read as its value. -/
theorem hexDigit?_hexDigit {d : Nat} (h : d < 16) : hexDigit? (hexDigit d) = some d := by
  revert d
  decide

/-- The digits of a unit are read back, if anything follows them. -/
theorem hexUnit?_ofHex (h : c.val < 0x10000) (hx : x ≠ []) :
    hexUnit? (Text.ofHex 4 c.val ++ x) = some (c, x) := by
  obtain ⟨e, rest, rfl⟩ := List.exists_cons_of_ne_nil hx
  have hvalue : ((c.val / 0x1000 * 16 + c.val / 0x100 % 16) * 16 + c.val / 0x10 % 16) * 16 +
      c.val % 16 = c.val := by omega
  have hpoint : CodePoint.ofNat c.val = c := Fin.ext (CodePoint.val_ofNat c.isLt)
  rw [Text.ofHex_four h]
  simp only [List.cons_append, List.nil_append, hexUnit?, hvalue, hpoint,
    hexDigit?_hexDigit (by omega : c.val / 0x1000 < 16),
    hexDigit?_hexDigit (Nat.mod_lt (c.val / 0x100) (by decide : 0 < 16)),
    hexDigit?_hexDigit (Nat.mod_lt (c.val / 0x10) (by decide : 0 < 16)),
    hexDigit?_hexDigit (Nat.mod_lt c.val (by decide : 0 < 16))]

/-- A unit is escaped by a backslash, a `u` and four digits. -/
theorem escapeUnit_eq (c : CodePoint) : escapeUnit c = 0x5C :: 0x75 :: Text.ofHex 4 c.val := rfl

/-- So it stays on its line. -/
theorem isOneLine_escapeUnit (h : c.val < 0x10000) : IsOneLine (escapeUnit c) := by
  have hbackslash : 0x20 ≤ (0x5C : CodePoint).val ∧ (0x5C : CodePoint).val ≤ 0x7E := by decide
  have hletter : 0x20 ≤ (0x75 : CodePoint).val ∧ (0x75 : CodePoint).val ≤ 0x7E := by decide
  rw [escapeUnit_eq, Text.ofHex_four h]
  simp only [Text.isOneLine_cons, Text.isOneLine_nil, and_true]
  exact ⟨hbackslash, hletter, Text.hexDigit_range (by omega), Text.hexDigit_range (by omega),
    Text.hexDigit_range (by omega), Text.hexDigit_range (by omega)⟩

/-- How a unit is written: as itself, with one letter, or with its digits. -/
inductive Writes (c : CodePoint) : Text → Prop
  | plain (hrange : 0x20 ≤ c.val ∧ c.val ≤ 0x7E) (hquote : c ≠ 0x22) (hbackslash : c ≠ 0x5C) :
    Writes c [c]
  | short (letter : CodePoint) (h : shortEscape? letter = some c) (hletter : letter ≠ 0x75)
    (hrange : 0x20 ≤ letter.val ∧ letter.val ≤ 0x7E) : Writes c [0x5C, letter]
  | unit : Writes c (escapeUnit c)

/-- What is written for a code point of the first plane is that one, in one of the three
ways. -/
theorem writes_escapePoint (h : c.val < 0x10000) : Writes c (escapePoint c) := by
  rw [escapePoint]
  split
  · next hc => exact hc ▸ .short 0x22 (by decide) (by decide) (by decide)
  split
  · next hc => exact hc ▸ .short 0x5C (by decide) (by decide) (by decide)
  split
  · next hc => exact hc ▸ .short 0x6E (by decide) (by decide) (by decide)
  split
  · next hc => exact hc ▸ .short 0x72 (by decide) (by decide) (by decide)
  split
  · next hc => exact hc ▸ .short 0x74 (by decide) (by decide) (by decide)
  split
  · next hc => exact hc ▸ .short 0x66 (by decide) (by decide) (by decide)
  split
  · next hc => exact hc ▸ .short 0x62 (by decide) (by decide) (by decide)
  split
  · next hquote hbackslash _ _ _ _ _ hrange => exact .plain hrange hquote hbackslash
  · exact .unit

/-- Behind the printable ones a code point is escaped by its units. -/
theorem escapePoint_of_lt (h : 0x7E < c.val) : escapePoint c =
    if c.val < 0x10000 then escapeUnit c else escapeUnit c.split.1 ++ escapeUnit c.split.2 := by
  have hne {k : CodePoint} (hk : k.val ≤ 0x7E) : c ≠ k := by
    rintro rfl
    omega
  have hrange : ¬(0x20 ≤ c.val ∧ c.val ≤ 0x7E) := fun hrange => Nat.not_le_of_lt h hrange.2
  rw [escapePoint, if_neg (hne (by decide)), if_neg (hne (by decide)), if_neg (hne (by decide)),
    if_neg (hne (by decide)), if_neg (hne (by decide)), if_neg (hne (by decide)),
    if_neg (hne (by decide)), if_neg hrange]

/-- So a high surrogate is escaped as the unit that it is. -/
theorem escapePoint_of_isHighSurrogate (h : c.isHighSurrogate = true) :
    c.val < 0x10000 ∧ escapePoint c = escapeUnit c := by
  rw [CodePoint.isHighSurrogate_iff] at h
  have hunit : c.val < 0x10000 := by omega
  exact ⟨hunit, by rw [escapePoint_of_lt (by omega), if_pos hunit]⟩

/-- And a low one. -/
theorem escapePoint_of_isLowSurrogate (h : c.isLowSurrogate = true) :
    c.val < 0x10000 ∧ escapePoint c = escapeUnit c := by
  rw [CodePoint.isLowSurrogate_iff] at h
  have hunit : c.val < 0x10000 := by omega
  exact ⟨hunit, by rw [escapePoint_of_lt (by omega), if_pos hunit]⟩

/-- What is written of a code point is written of its units. -/
theorem flatMap_pointUnits (c : CodePoint) :
    (Text.pointUnits c).flatMap escapePoint = escapePoint c := by
  rw [Text.pointUnits]
  split
  · rw [List.flatMap_singleton]
  · next h =>
    rw [escapePoint_of_lt (by omega), if_neg h, List.flatMap_cons, List.flatMap_singleton,
      (escapePoint_of_isHighSurrogate (CodePoint.isHighSurrogate_split c)).2,
      (escapePoint_of_isLowSurrogate (CodePoint.isLowSurrogate_split c)).2]

/-- A text is escaped as its units are. -/
theorem flatMap_units (t : Text) : (Text.units t).flatMap escapePoint = t.flatMap escapePoint := by
  rw [Text.units, List.flatMap_assoc]
  exact congrArg t.flatMap (funext flatMap_pointUnits)

/-- Every unit of a text has 16 bits. -/
theorem lt_of_mem_units (h : c ∈ Text.units t) : c.val < 0x10000 := by
  obtain ⟨d, -, hc⟩ := List.mem_flatMap.1 h
  rw [Text.pointUnits] at hc
  split at hc
  · next hd => exact List.mem_singleton.1 hc ▸ hd
  · rcases List.mem_cons.1 hc with rfl | hc
    · exact (escapePoint_of_isHighSurrogate (CodePoint.isHighSurrogate_split d)).1
    · rw [List.mem_singleton.1 hc]
      exact (escapePoint_of_isLowSurrogate (CodePoint.isLowSurrogate_split d)).1

/-- What is written for a unit stays on its line. -/
theorem isOneLine_escapePoint (h : c.val < 0x10000) : IsOneLine (escapePoint c) := by
  have hbackslash : 0x20 ≤ (0x5C : CodePoint).val ∧ (0x5C : CodePoint).val ≤ 0x7E := by decide
  have hwrites := writes_escapePoint h
  generalize escapePoint c = written at hwrites ⊢
  cases hwrites with
  | plain hrange _ _ => exact List.forall_mem_singleton.2 hrange
  | short letter _ _ hrange =>
    exact List.forall_mem_cons.2 ⟨hbackslash, List.forall_mem_singleton.2 hrange⟩
  | unit => exact isOneLine_escapeUnit h

/-- **A written text is on one line**, whatever it has in it. -/
theorem isOneLine_writeText (t : Text) : IsOneLine (writeText t) := by
  have hquote : 0x20 ≤ (0x22 : CodePoint).val ∧ (0x22 : CodePoint).val ≤ 0x7E := by decide
  have hpoints : IsOneLine (t.flatMap escapePoint) := by
    rw [← flatMap_units]
    intro d hd
    obtain ⟨c, hc, hd⟩ := List.mem_flatMap.1 hd
    exact isOneLine_escapePoint (lt_of_mem_units hc) d hd
  rw [writeText, List.cons_append]
  exact Text.isOneLine_cons.2
    ⟨hquote, Text.isOneLine_append.2 ⟨hpoints, List.forall_mem_singleton.2 hquote⟩⟩

/-! ## One step of the reader -/

/-- A quote ends the string. -/
theorem readStringFrom_quote :
    readStringFrom start offset done (0x22 :: rest) = .ok (done.reverse, ⟨offset + 1, rest⟩) := by
  rw [readStringFrom.eq_def]
  rfl

/-- A character that is printable, and neither a quote nor a backslash, is read as itself. -/
theorem readStringFrom_plain (hrange : 0x20 ≤ c.val) (hquote : c ≠ 0x22) (hbackslash : c ≠ 0x5C) :
    readStringFrom start offset done (c :: rest) =
      readStringFrom start (offset + 1) (c :: done) rest := by
  rw [readStringFrom.eq_def]
  split
  · next heq => cases heq
  · next heq => exact absurd (List.cons.inj heq).1 hquote
  · next heq => exact absurd (List.cons.inj heq).1 hbackslash
  · next heq => exact absurd (List.cons.inj heq).1 hbackslash
  · next heq => exact absurd (List.cons.inj heq).1 hbackslash
  · next heq =>
    obtain ⟨rfl, rfl⟩ := List.cons.inj heq
    rw [if_neg (Nat.not_lt.2 hrange)]

/-- A short escape is read as what it stands for. -/
theorem readStringFrom_short (h : shortEscape? c = some low) (hc : c ≠ 0x75) :
    readStringFrom start offset done (0x5C :: c :: rest) =
      readStringFrom start (offset + 2) (low :: done) rest := by
  rw [readStringFrom.eq_def]
  split
  · next heq => cases heq
  · next heq => exact absurd (List.cons.inj heq).1 (by decide)
  · next heq => cases heq
  · next heq => exact absurd (List.cons.inj (List.cons.inj heq).2).1 hc
  · next heq =>
    obtain ⟨rfl, rfl⟩ := List.cons.inj (List.cons.inj heq).2
    simp only [h]
  · next hnot heq =>
    obtain ⟨rfl, rfl⟩ := List.cons.inj heq
    exact (hnot _ _ rfl rfl).elim

/-- A unit is read as itself, unless it is the first of a pair. -/
theorem readStringFrom_unit (hunit : hexUnit? rest = some (c, x))
    (hlow : c.isHighSurrogate = true → lowEscape? x = none) :
    readStringFrom start offset done (0x5C :: 0x75 :: rest) =
      readStringFrom start (offset + 6) (c :: done) x := by
  rw [readStringFrom]
  split
  · next h => cases hunit.symm.trans h
  · next unit tail h =>
    obtain ⟨rfl, rfl⟩ := Prod.mk.inj (Option.some.inj (hunit.symm.trans h))
    split
    · next hhigh =>
      split
      · next hsome => cases (hlow hhigh).symm.trans hsome
      · rfl
    · rfl

/-- Two units that are a pair are read as one code point. -/
theorem readStringFrom_pair (hunit : hexUnit? rest = some (high, x))
    (hhigh : high.isHighSurrogate = true) (hlow : lowEscape? x = some (low, t)) :
    readStringFrom start offset done (0x5C :: 0x75 :: rest) =
      readStringFrom start (offset + 12) (high.join low :: done) t := by
  rw [readStringFrom]
  split
  · next h => cases hunit.symm.trans h
  · next unit tail h =>
    obtain ⟨rfl, rfl⟩ := Prod.mk.inj (Option.some.inj (hunit.symm.trans h))
    rw [if_pos hhigh]
    split
    · next h =>
      obtain ⟨rfl, rfl⟩ := Prod.mk.inj (Option.some.inj (hlow.symm.trans h))
      rfl
    · next h => cases hlow.symm.trans h

/-! ## Units -/

/-- What is written for a unit is read as the unit, where no pair begins. -/
theorem readStringFrom_escapePoint (hunit : c.val < 0x10000) (hx : x ≠ [])
    (hlow : c.isHighSurrogate = true → lowEscape? x = none) (start offset : Nat) (done : Text) :
    ∃ after, readStringFrom start offset done (escapePoint c ++ x) =
      readStringFrom start after (c :: done) x := by
  have hwrites := writes_escapePoint hunit
  generalize escapePoint c = written at hwrites ⊢
  cases hwrites with
  | plain hrange hquote hbackslash =>
    exact ⟨_, readStringFrom_plain hrange.1 hquote hbackslash⟩
  | short letter h hletter _ => exact ⟨_, readStringFrom_short h hletter⟩
  | unit => exact ⟨_, readStringFrom_unit (hexUnit?_ofHex hunit hx) hlow⟩

/-- The escape of a low surrogate is one. -/
theorem lowEscape?_escapePoint (h : low.isLowSurrogate = true) (hx : x ≠ []) :
    lowEscape? (escapePoint low ++ x) = some (low, x) := by
  obtain ⟨hunit, hescape⟩ := escapePoint_of_isLowSurrogate h
  rw [hescape, escapeUnit_eq, List.cons_append, List.cons_append, lowEscape?,
    hexUnit?_ofHex hunit hx]
  exact if_pos h

/-- Nothing else that is written is the escape of a low surrogate. -/
theorem lowEscape?_of_not_isLowSurrogate (hunit : c.val < 0x10000) (hx : x ≠ [])
    (h : c.isLowSurrogate = false) : lowEscape? (escapePoint c ++ x) = none := by
  have hwrites := writes_escapePoint hunit
  generalize escapePoint c = written at hwrites ⊢
  cases hwrites with
  | plain _ _ hbackslash =>
    rw [lowEscape?.eq_def]
    split
    · next heq => exact absurd (List.cons.inj heq).1 hbackslash
    · rfl
  | short letter _ hletter _ =>
    rw [lowEscape?.eq_def]
    split
    · next heq => exact absurd (List.cons.inj (List.cons.inj heq).2).1 hletter
    · rfl
  | unit =>
    rw [escapeUnit_eq, List.cons_append, List.cons_append, lowEscape?, hexUnit?_ofHex hunit hx]
    exact if_neg (by rw [h]; decide)

/-- Written units are read back with pairs joined, up to the quote behind them. -/
theorem readStringFrom_units {u : Text} (hunits : ∀ c ∈ u, c.val < 0x10000)
    (start offset : Nat) (done rest : Text) :
    ∃ after, readStringFrom start offset done (u.flatMap escapePoint ++ 0x22 :: rest) =
      .ok (done.reverse ++ Text.pairUp u, ⟨after, rest⟩) := by
  have hquote : lowEscape? (0x22 :: rest) = none := rfl
  have hne (t : Text) : t ++ 0x22 :: rest ≠ [] :=
    List.append_ne_nil_of_right_ne_nil _ (List.cons_ne_nil _ _)
  fun_induction Text.pairUp u generalizing offset done with
  | case1 high low u hpair ih =>
    -- the reader takes the two escapes together
    rw [Bool.and_eq_true] at hpair
    obtain ⟨hhigh, hlow⟩ := hpair
    rw [List.forall_mem_cons, List.forall_mem_cons] at hunits
    obtain ⟨hmax, hescape⟩ := escapePoint_of_isHighSurrogate hhigh
    obtain ⟨after, hafter⟩ := ih hunits.2.2 (offset + 12) (high.join low :: done)
    refine ⟨after, ?_⟩
    rw [List.flatMap_cons, List.flatMap_cons, List.append_assoc, List.append_assoc, hescape,
      escapeUnit_eq, List.cons_append, List.cons_append,
      readStringFrom_pair (hexUnit?_ofHex hmax (List.append_ne_nil_of_right_ne_nil _ (hne _)))
        hhigh (lowEscape?_escapePoint hlow (hne _)),
      hafter, List.reverse_cons, List.append_assoc]
    rfl
  | case2 c d u hpair ih =>
    rw [List.forall_mem_cons] at hunits
    have hd := hunits.2 d List.mem_cons_self
    have hlow : c.isHighSurrogate = true →
        lowEscape? ((d :: u).flatMap escapePoint ++ 0x22 :: rest) = none := by
      intro hhigh
      rw [hhigh, Bool.true_and, Bool.not_eq_true] at hpair
      rw [List.flatMap_cons, List.append_assoc]
      exact lowEscape?_of_not_isLowSurrogate hd (hne _) hpair
    obtain ⟨after, hafter⟩ := readStringFrom_escapePoint hunits.1 (hne _) hlow start offset done
    obtain ⟨last, hlast⟩ := ih hunits.2 after (c :: done)
    refine ⟨last, ?_⟩
    rw [List.flatMap_cons, List.append_assoc, hafter, hlast, List.reverse_cons,
      List.append_assoc]
    rfl
  | case3 u hshort =>
    rcases u with _ | ⟨c, _ | ⟨d, u⟩⟩
    · exact ⟨_, by rw [List.flatMap_nil, List.nil_append, readStringFrom_quote,
        List.append_nil]⟩
    · obtain ⟨after, hafter⟩ := readStringFrom_escapePoint (hunits c List.mem_cons_self) (hne [])
        (fun _ => hquote) start offset done
      refine ⟨after + 1, ?_⟩
      rw [List.flatMap_singleton]
      exact hafter.trans (by rw [List.nil_append, readStringFrom_quote, List.reverse_cons])
    · exact (hshort c d u rfl).elim

/-- **A written text is read back**, with its pairs joined, and the reader is behind it. -/
theorem readString_writeText (t : Text) (offset : Nat) (rest : Text) :
    ∃ after, readString ⟨offset, t.flatMap escapePoint ++ 0x22 :: rest⟩ =
      .ok (Text.joinPairs t, ⟨after, rest⟩) := by
  obtain ⟨after, hafter⟩ :=
    readStringFrom_units (fun c hc => lt_of_mem_units hc) (offset - 1) offset [] rest
  rw [flatMap_units, ← Text.joinPairs_eq_pairUp, Text.joinPairs_units] at hafter
  exact ⟨after, hafter⟩

end Json
end Hotspot
