/-
# Integer literals

The lenient reading of an integer against what there is to be read. A numeral is digits of any
script, at least one, with single underscores between them or without; a sign may stand right
before it, and blanks around it all:

| text | integer |
| --- | ---: |
| `12`, `+12`, `1_2`, `012`, `١٢` | 12 |
| ` -1_2 ` | -12 |
| `1__2`, `_12`, `12_`, `- 12`, `1 2`, `+` | |

Digits and signs are no blanks, so the blanks are where trimming stops. A literal has one
integer, and none if its numeral has over 4300 digits.
-/

import Hotspot.Proofs.Text.Ascii
import Hotspot.Proofs.Text.Numerals
import Mathlib.Data.List.TakeWhile

namespace Hotspot

namespace CodePoint

variable {c : CodePoint}

/-- No digit of any script is a blank. -/
theorem digit?_of_isBlank (h : c.isBlank = true) : c.digit? = none := by
  have hruns : ∀ first ∈ zeros, (first + 9 < 0x85 ∨ 0xA0 < first) ∧
      (first + 9 < 0x1680 ∨ 0x1680 < first) ∧ (first + 9 < 0x2000 ∨ 0x3000 < first) := by decide
  simp only [isBlank, Bool.or_eq_true, Bool.and_eq_true, decide_eq_true_eq] at h
  rw [digit?]
  split
  · have hdigit : c.isDigit = false := by
      simp only [isDigit, Bool.and_eq_false_iff, decide_eq_false_iff_not]
      omega
    rw [hdigit]
    rfl
  · rw [Option.map_eq_none_iff, List.find?_eq_none]
    intro first hfirst
    have hrun := hruns first hfirst
    simp only [Bool.and_eq_true, decide_eq_true_eq]
    omega

/-- An ASCII digit has its own value. -/
theorem digit?_of_isDigit (h : 0x30 ≤ c.val ∧ c.val ≤ 0x39) :
    c.digit? = some (c.val - 0x30) := by
  have hdigit : c.isDigit = true := by
    simp only [isDigit, Bool.and_eq_true, decide_eq_true_eq]
    exact h
  rw [digit?, if_pos (by omega), if_pos hdigit]

/-- A digit of any script is below ten. -/
theorem digit?_lt {d : Nat} (h : c.digit? = some d) : d < 10 := by
  rw [digit?] at h
  split at h
  · obtain ⟨hdigit, hd⟩ := Option.ite_none_right_eq_some.1 h
    obtain rfl := Option.some.inj hd
    simp only [isDigit, Bool.and_eq_true, decide_eq_true_eq] at hdigit
    omega
  · obtain ⟨first, hfirst, rfl⟩ := Option.map_eq_some_iff.1 h
    have hrange := List.find?_some hfirst
    simp only [Bool.and_eq_true, decide_eq_true_eq] at hrange
    omega

end CodePoint

namespace Text

variable {t u before after : Text} {c : CodePoint} {d : Nat} {ds done : List Nat} {i : Int}
  {blank : CodePoint → Bool}

/-- A text spells out digits of any script; a single underscore may stand between two of them. -/
inductive Spells : Text → List Nat → Prop
  | last {c : CodePoint} {d : Nat} (h : c.digit? = some d) : Spells [c] [d]
  | next {c : CodePoint} {d : Nat} {t : Text} {ds : List Nat} (h : c.digit? = some d)
    (ht : Spells t ds) : Spells (c :: t) (d :: ds)
  | separated {c : CodePoint} {d : Nat} {t : Text} {ds : List Nat} (h : c.digit? = some d)
    (ht : Spells t ds) : Spells (c :: 0x5F :: t) (d :: ds)

/-- A text is an integer in decimal, of up to 4300 digits. -/
inductive IsDecimal : Text → Int → Prop
  | unsigned {t : Text} {ds : List Nat} (h : Spells t ds) (hmax : ds.length ≤ 4300) :
    IsDecimal t (Nat.ofDigits 10 ds.reverse : Nat)
  | plus {t : Text} {ds : List Nat} (h : Spells t ds) (hmax : ds.length ≤ 4300) :
    IsDecimal (0x2B :: t) (Nat.ofDigits 10 ds.reverse : Nat)
  | minus {t : Text} {ds : List Nat} (h : Spells t ds) (hmax : ds.length ≤ 4300) :
    IsDecimal (0x2D :: t) (-(Nat.ofDigits 10 ds.reverse : Nat))

/-- A text is an integer in decimal with blanks of some kind around it. -/
def IsLiteral (blank : CodePoint → Bool) (t : Text) (i : Int) : Prop :=
  ∃ before decimal after, t = before ++ decimal ++ after ∧ (∀ c ∈ before, blank c = true) ∧
    (∀ c ∈ after, blank c = true) ∧ IsDecimal decimal i

/-! ## Digits -/

/-- Nothing is spelled without a digit. -/
theorem Spells.ne_nil (h : Spells t ds) : ds ≠ [] := by
  cases h <;> exact List.cons_ne_nil _ _

/-- What spells out digits starts with one. -/
theorem Spells.exists_cons (h : Spells t ds) : ∃ c rest d, t = c :: rest ∧ c.digit? = some d := by
  cases h with
  | last h => exact ⟨_, _, _, rfl, h⟩
  | next h _ => exact ⟨_, _, _, rfl, h⟩
  | separated h _ => exact ⟨_, _, _, rfl, h⟩

/-- What spells out digits ends with one. -/
theorem Spells.exists_concat (h : Spells t ds) :
    ∃ rest c d, t = rest ++ [c] ∧ c.digit? = some d := by
  induction h with
  | last h => exact ⟨[], _, _, rfl, h⟩
  | next _ _ ih =>
    obtain ⟨rest, c, d, rfl, h⟩ := ih
    exact ⟨_ :: rest, c, d, rfl, h⟩
  | separated _ _ ih =>
    obtain ⟨rest, c, d, rfl, h⟩ := ih
    exact ⟨_ :: _ :: rest, c, d, rfl, h⟩

/-- What spells digits is made of digits and underscores. -/
theorem Spells.of_mem (h : Spells t ds) (hc : c ∈ t) : (∃ d, c.digit? = some d) ∨ c = 0x5F := by
  induction h with
  | last h => exact .inl ⟨_, (List.mem_singleton.1 hc) ▸ h⟩
  | next h _ ih =>
    rcases List.mem_cons.1 hc with rfl | hc
    · exact .inl ⟨_, h⟩
    · exact ih hc
  | separated h _ ih =>
    rcases List.mem_cons.1 hc with rfl | hc
    · exact .inl ⟨_, h⟩
    · rcases List.mem_cons.1 hc with rfl | hc
      · exact .inr rfl
      · exact ih hc

/-- All digits that are spelled are below ten. -/
theorem Spells.lt (h : Spells t ds) : ∀ d ∈ ds, d < 10 := by
  induction h with
  | last h => simpa using CodePoint.digit?_lt h
  | next h _ ih => simpa using ⟨CodePoint.digit?_lt h, ih⟩
  | separated h _ ih => simpa using ⟨CodePoint.digit?_lt h, ih⟩

/-- Plain digits spell their values. -/
theorem IsDigits.spells {n : Nat} (h : IsDigits t n) : Spells t (t.map fun c => c.val - 0x30) := by
  obtain ⟨hne, hrange, -⟩ := h
  induction t with
  | nil => exact absurd rfl hne
  | cons c t ih =>
    have hc := CodePoint.digit?_of_isDigit (hrange c List.mem_cons_self)
    cases t with
    | nil => exact .last hc
    | cons e t =>
      exact .next hc (ih (List.cons_ne_nil _ _) fun x hx => hrange x (List.mem_cons_of_mem _ hx))

/-! ## Reading digits -/

/-- A digit is read whatever is behind it. -/
theorem separatedDigits?_cons (hc : c.digit? = some d) :
    separatedDigits? done (c :: t) = separatedDigits? (d :: done) t := by
  rw [separatedDigits?.eq_def]
  simp only [hc]

/-- An underscore between two digits is dropped. -/
theorem separatedDigits?_underscore (hdone : done ≠ []) (hc : c.digit? = some d) :
    separatedDigits? done (0x5F :: c :: t) = separatedDigits? (d :: done) t := by
  have hnone : (0x5F : CodePoint).digit? = none := by decide
  have hsome : done.isEmpty = false := List.isEmpty_eq_false_iff.2 hdone
  rw [separatedDigits?.eq_def]
  simp only [hnone, hsome, decide_true, Bool.not_false, Bool.and_self, if_true, hc]

/-- What spells digits is read as them, by induction on the spelling. -/
theorem separatedDigits?_of_spells (h : Spells t ds) (done : List Nat) :
    separatedDigits? done t = some (done.reverse ++ ds) := by
  induction h generalizing done with
  | last h => rw [separatedDigits?_cons h, separatedDigits?, List.reverse_cons]
  | next h _ ih => rw [separatedDigits?_cons h, ih, List.reverse_cons, List.append_assoc]; rfl
  | @separated c d t ds h ht ih =>
    obtain ⟨e, rest, d', rfl, he⟩ := ht.exists_cons
    have hrest := ih (d :: done)
    rw [separatedDigits?_cons he] at hrest
    rw [separatedDigits?_cons h, separatedDigits?_underscore (List.cons_ne_nil _ _) he, hrest,
      List.reverse_cons, List.append_assoc]
    rfl

/-- What may follow a digit in a numeral. -/
inductive Continues : Text → List Nat → Prop
  | done : Continues [] []
  | digits {t : Text} {ds : List Nat} (h : Spells t ds) : Continues t ds
  | separated {t : Text} {ds : List Nat} (h : Spells t ds) : Continues (0x5F :: t) ds

/-- A digit in front of what goes on with digits spells them all. -/
theorem Continues.spells (h : Continues t ds) (hc : c.digit? = some d) :
    Spells (c :: t) (d :: ds) := by
  cases h with
  | done => exact .last hc
  | digits h => exact .next hc h
  | separated h => exact .separated hc h

/-- Whatever is read after some digits continues them. -/
theorem continues_of_separatedDigits? {digits : List Nat}
    (h : separatedDigits? done t = some digits) (hdone : done ≠ []) :
    ∃ ds, digits = done.reverse ++ ds ∧ Continues t ds := by
  fun_induction separatedDigits? done t with
  | case1 done => exact ⟨[], by rw [List.append_nil, Option.some.inj h], .done⟩
  | case2 done c t d hc ih =>
    obtain ⟨ds, rfl, ht⟩ := ih h (List.cons_ne_nil _ _)
    refine ⟨d :: ds, ?_, .digits (ht.spells hc)⟩
    rw [List.reverse_cons, List.append_assoc, List.singleton_append]
  | case3 done c hc hunder e t d he ih =>
    simp only [Bool.and_eq_true, decide_eq_true_eq] at hunder
    obtain ⟨rfl, -⟩ := hunder
    obtain ⟨ds, rfl, ht⟩ := ih h (List.cons_ne_nil _ _)
    refine ⟨d :: ds, ?_, .separated (ht.spells he)⟩
    rw [List.reverse_cons, List.append_assoc, List.singleton_append]
  | case4 | case5 | case6 => cases h

/-- So reading and spelling are the same, where there is a digit. -/
theorem separatedDigits?_eq_some (hne : ds ≠ []) :
    separatedDigits? [] t = some ds ↔ Spells t ds := by
  refine ⟨fun h => ?_, fun h => separatedDigits?_of_spells h []⟩
  cases t with
  | nil => exact absurd (Option.some.inj h).symm hne
  | cons c t =>
    cases hc : c.digit? with
    | none =>
      rw [separatedDigits?.eq_def] at h
      simp [hc] at h
    | some d =>
      rw [separatedDigits?_cons hc] at h
      obtain ⟨ds, rfl, ht⟩ := continues_of_separatedDigits? h (List.cons_ne_nil _ _)
      exact ht.spells hc

/-! ## Signs -/

/-- Digits have no sign. -/
theorem sign_of_spells (h : Spells t ds) : sign t = (false, t) := by
  obtain ⟨c, rest, d, rfl, hc⟩ := h.exists_cons
  have hminus : (0x2D : CodePoint).digit? = none := by decide
  have hplus : (0x2B : CodePoint).digit? = none := by decide
  rw [sign.eq_def]
  split
  · next heq =>
    rw [(List.cons.inj heq).1, hminus] at hc
    cases hc
  · next heq =>
    rw [(List.cons.inj heq).1, hplus] at hc
    cases hc
  · rfl

/-- A decimal is a sign and a spelling of few enough digits, and has their value. -/
theorem isDecimal_iff : IsDecimal t i ↔
    ∃ ds, Spells (sign t).2 ds ∧ ds.length ≤ 4300 ∧
      signed (sign t).1 (Nat.ofDigits 10 ds.reverse) = i := by
  constructor
  · intro h
    cases h with
    | unsigned h hmax =>
      rw [sign_of_spells h]
      exact ⟨_, h, hmax, rfl⟩
    | plus h hmax => exact ⟨_, h, hmax, rfl⟩
    | minus h hmax => exact ⟨_, h, hmax, rfl⟩
  · rintro ⟨ds, h, hmax, rfl⟩
    revert h
    rw [sign.eq_def]
    split
    · exact fun h => .minus h hmax
    · exact fun h => .plus h hmax
    · exact fun h => .unsigned h hmax

/-- An integer within the limit is written in decimal. -/
theorem isDecimal_ofInt (h : i.natAbs < 10 ^ 4300) : IsDecimal (ofInt i) i := by
  have hdigits := isDigits_ofNat i.natAbs
  have hmax : ((ofNat i.natAbs).map fun c => c.val - 0x30).length ≤ 4300 := by
    rw [List.length_map]
    exact (length_ofNat_le (by decide)).2 h
  have hvalue := hdigits.value
  rw [List.map_reverse] at hvalue
  rw [ofInt]
  split
  · next hneg =>
    have hdecimal := IsDecimal.minus hdigits.spells hmax
    rw [hvalue, Int.ofNat_natAbs_of_nonpos (Int.le_of_lt hneg), Int.neg_neg] at hdecimal
    exact hdecimal
  · next hneg =>
    have hdecimal := IsDecimal.unsigned hdigits.spells hmax
    rw [hvalue, Int.natAbs_of_nonneg (Int.not_lt.1 hneg)] at hdecimal
    exact hdecimal

/-! ## The lenient reading -/

/-- A text is read as an integer just if it is a decimal between blanks. -/
theorem toInt?_eq_some :
    toInt? t = some i ↔ IsDecimal (dropAroundWhile isBlankAroundInteger t) i := by
  rw [isDecimal_iff, toInt?]
  dsimp only
  generalize (sign (dropAroundWhile isBlankAroundInteger t)).2 = numeral
  generalize (sign (dropAroundWhile isBlankAroundInteger t)).1 = negative
  cases hread : separatedDigits? [] numeral with
  | none =>
    refine ⟨nofun, ?_⟩
    rintro ⟨ds, h, -⟩
    rw [separatedDigits?_of_spells h] at hread
    cases hread
  | some ds =>
    cases ds with
    | nil =>
      refine ⟨nofun, ?_⟩
      rintro ⟨ds, h, -⟩
      rw [separatedDigits?_of_spells h] at hread
      exact absurd (Option.some.inj hread) h.ne_nil
    | cons d ds =>
      have hspells := (separatedDigits?_eq_some (List.cons_ne_nil d ds)).1 hread
      simp only [Option.ite_none_right_eq_some, Option.some.injEq, ofDigits_eq]
      constructor
      · rintro ⟨hmax, rfl⟩
        exact ⟨_, hspells, hmax, rfl⟩
      · rintro ⟨ds', h, hmax, rfl⟩
        rw [separatedDigits?_of_spells h] at hread
        obtain rfl := Option.some.inj hread
        exact ⟨hmax, rfl⟩

/-- So many digits stay below the power of their count. -/
theorem Spells.ofDigits_lt (h : Spells t ds) {n : Nat} (hn : ds.length ≤ n) :
    Nat.ofDigits 10 ds.reverse < 10 ^ n := by
  have hlt : Nat.ofDigits 10 ds.reverse < 10 ^ ds.reverse.length :=
    Nat.ofDigits_lt_base_pow_length (by decide) fun d hd => h.lt d (List.mem_reverse.1 hd)
  rw [List.length_reverse] at hlt
  exact Nat.lt_of_lt_of_le hlt (Nat.pow_le_pow_right (by decide) hn)

/-- So does a decimal. -/
theorem IsDecimal.natAbs_lt (h : IsDecimal t i) {n : Nat} (hn : 4300 ≤ n) :
    i.natAbs < 10 ^ n := by
  cases h with
  | unsigned h hmax => exact h.ofDigits_lt (hmax.trans hn)
  | plus h hmax => exact h.ofDigits_lt (hmax.trans hn)
  | minus h hmax =>
    rw [Int.natAbs_neg]
    exact h.ofDigits_lt (hmax.trans hn)

/-- A number that is read can be written. -/
theorem writable_of_toInt? (h : toInt? t = some i) : writable i = true := by
  have hlimit : 4300 ≤ digitLimit := le_rfl
  rw [writable, decide_eq_true_iff]
  generalize digitLimit = n at hlimit ⊢
  exact (toInt?_eq_some.1 h).natAbs_lt hlimit

/-! ## Blanks -/

/-- Blanks behind make no difference where blanks behind are dropped. -/
theorem dropRightWhile_append (h : ∀ c ∈ after, blank c = true) :
    dropRightWhile blank (t ++ after) = dropRightWhile blank t := by
  rw [dropRightWhile, List.reverse_append,
    List.dropWhile_append_of_pos fun c hc => h c (List.mem_reverse.1 hc), dropRightWhile]

/-- Trimming takes blanks from both ends. -/
theorem exists_dropAroundWhile (blank : CodePoint → Bool) (t : Text) :
    ∃ before after, t = before ++ dropAroundWhile blank t ++ after ∧
      (∀ c ∈ before, blank c = true) ∧ ∀ c ∈ after, blank c = true := by
  have hleft := List.takeWhile_append_dropWhile (p := blank) (l := t)
  have hright := List.takeWhile_append_dropWhile (p := blank) (l := (t.dropWhile blank).reverse)
  refine ⟨t.takeWhile blank, ((t.dropWhile blank).reverse.takeWhile blank).reverse, ?_,
    fun c hc => List.mem_takeWhile_imp hc,
    fun c hc => List.mem_takeWhile_imp (List.mem_reverse.1 hc)⟩
  rw [dropAroundWhile, dropRightWhile, List.append_assoc, ← List.reverse_append, hright,
    List.reverse_reverse, hleft]

/-- Trimming stops at whatever is no blank. -/
theorem dropAroundWhile_append {c e : CodePoint} {front back : Text}
    (hbefore : ∀ c ∈ before, blank c = true) (hafter : ∀ c ∈ after, blank c = true)
    (hfront : t = c :: front) (hc : blank c = false) (hback : t = back ++ [e])
    (he : blank e = false) : dropAroundWhile blank (before ++ t ++ after) = t := by
  have hleft : (t ++ after).dropWhile blank = t ++ after := by
    rw [hfront, List.cons_append, List.dropWhile_cons_of_neg (by rw [hc]; decide)]
  rw [dropAroundWhile, List.append_assoc, List.dropWhile_append_of_pos hbefore, hleft,
    dropRightWhile_append hafter, dropRightWhile, hback, List.reverse_append,
    List.reverse_singleton, List.singleton_append,
    List.dropWhile_cons_of_neg (by rw [he]; decide), List.reverse_cons, List.reverse_reverse]

/-- Blanks of a kind that has no digit and no sign. -/
structure SparesNumerals (blank : CodePoint → Bool) : Prop where
  digit {c : CodePoint} {d : Nat} (h : c.digit? = some d) : blank c = false
  plus : blank 0x2B = false
  minus : blank 0x2D = false

/-- The blanks of a text are none of the characters of a numeral. -/
theorem sparesNumerals_isBlank : SparesNumerals CodePoint.isBlank where
  digit h := by
    rw [← Bool.not_eq_true]
    intro hblank
    rw [CodePoint.digit?_of_isBlank hblank] at h
    cases h
  plus := by decide
  minus := by decide

/-- Nor are the blanks around an integer. -/
theorem sparesNumerals_isBlankAroundInteger : SparesNumerals isBlankAroundInteger where
  digit h := by
    rw [isBlankAroundInteger, sparesNumerals_isBlank.digit h]
    rfl
  plus := by decide
  minus := by decide

/-- So a decimal does not start with a blank. -/
theorem IsDecimal.exists_cons (h : IsDecimal t i) (hblank : SparesNumerals blank) :
    ∃ c rest, t = c :: rest ∧ blank c = false := by
  cases h with
  | unsigned h _ =>
    obtain ⟨c, rest, d, rfl, hc⟩ := h.exists_cons
    exact ⟨c, rest, rfl, hblank.digit hc⟩
  | plus => exact ⟨_, _, rfl, hblank.plus⟩
  | minus => exact ⟨_, _, rfl, hblank.minus⟩

/-- Nor does it end with one. -/
theorem IsDecimal.exists_concat (h : IsDecimal t i) (hblank : SparesNumerals blank) :
    ∃ rest c, t = rest ++ [c] ∧ blank c = false := by
  cases h with
  | unsigned h _ =>
    obtain ⟨rest, c, d, rfl, hc⟩ := h.exists_concat
    exact ⟨rest, c, rfl, hblank.digit hc⟩
  | plus h _ =>
    obtain ⟨rest, c, d, rfl, hc⟩ := h.exists_concat
    exact ⟨_ :: rest, c, rfl, hblank.digit hc⟩
  | minus h _ =>
    obtain ⟨rest, c, d, rfl, hc⟩ := h.exists_concat
    exact ⟨_ :: rest, c, rfl, hblank.digit hc⟩

/-- A literal has blanks, a sign, digits and underscores. -/
theorem IsLiteral.of_mem (h : IsLiteral blank t i) (hc : c ∈ t) :
    blank c = true ∨ (∃ d, c.digit? = some d) ∨ c = 0x5F ∨ c = 0x2B ∨ c = 0x2D := by
  obtain ⟨before, decimal, after, rfl, hbefore, hafter, h⟩ := h
  rcases List.mem_append.1 hc with hc | hc
  · rcases List.mem_append.1 hc with hc | hc
    · exact .inl (hbefore c hc)
    · right
      cases h with
      | unsigned h _ => exact (h.of_mem hc).imp_right .inl
      | plus h _ =>
        rcases List.mem_cons.1 hc with rfl | hc
        · exact .inr (.inr (.inl rfl))
        · exact (h.of_mem hc).imp_right .inl
      | minus h _ =>
        rcases List.mem_cons.1 hc with rfl | hc
        · exact .inr (.inr (.inr rfl))
        · exact (h.of_mem hc).imp_right .inl
  · exact .inl (hafter c hc)

/-- A literal is what is left of it without its blanks. -/
theorem isLiteral_iff (hblank : SparesNumerals blank) :
    IsLiteral blank t i ↔ IsDecimal (dropAroundWhile blank t) i := by
  constructor
  · rintro ⟨before, decimal, after, rfl, hbefore, hafter, h⟩
    obtain ⟨c, front, hfront, hc⟩ := h.exists_cons hblank
    obtain ⟨back, e, hback, he⟩ := h.exists_concat hblank
    rw [dropAroundWhile_append hbefore hafter hfront hc hback he]
    exact h
  · intro h
    obtain ⟨before, after, ht, hbefore, hafter⟩ := exists_dropAroundWhile blank t
    exact ⟨before, _, after, ht, hbefore, hafter, h⟩

/-- Digits that are too many are no literal, whatever their number. -/
theorem IsDigits.not_isLiteral {n : Nat} (h : IsDigits t n) (hlong : 4300 < t.length)
    (hblank : SparesNumerals blank) (i : Int) : ¬IsLiteral blank t i := by
  intro hliteral
  obtain ⟨c, front, d, hfront, hc⟩ := h.spells.exists_cons
  obtain ⟨back, e, d', hback, he⟩ := h.spells.exists_concat
  have htrim := dropAroundWhile_append (List.forall_mem_nil _) (List.forall_mem_nil _) hfront
    (hblank.digit hc) hback (hblank.digit he)
  rw [List.nil_append, List.append_nil] at htrim
  rw [isLiteral_iff hblank, htrim, isDecimal_iff, sign_of_isDigits h] at hliteral
  obtain ⟨ds, hspells, hmax, -⟩ := hliteral
  have hread := separatedDigits?_of_spells hspells []
  rw [separatedDigits?_of_spells h.spells, Option.some.injEq] at hread
  obtain rfl : (t.map fun c => c.val - 0x30) = ds := hread
  rw [List.length_map] at hmax
  omega

/-- **The lenient reading** reads exactly the literals. -/
theorem toInt?_iff_isLiteral : toInt? t = some i ↔ IsLiteral isBlankAroundInteger t i := by
  rw [toInt?_eq_some, isLiteral_iff sparesNumerals_isBlankAroundInteger]

/-- Of a trimmed text, the lenient reading reads the literals with any blanks around them. -/
theorem toInt?_trim : toInt? t.trim = some i ↔ IsLiteral CodePoint.isBlank t i := by
  rw [toInt?_iff_isLiteral]
  constructor
  · rintro ⟨before, decimal, after, htrim, hbefore, hafter, h⟩
    obtain ⟨before', after', ht, hbefore', hafter'⟩ := exists_dropAroundWhile CodePoint.isBlank t
    have hkind : ∀ c, isBlankAroundInteger c = true → c.isBlank = true := by
      intro c hc
      rw [isBlankAroundInteger, Bool.and_eq_true] at hc
      exact hc.1
    refine ⟨before' ++ before, decimal, after ++ after', ?_, ?_, ?_, h⟩
    · rw [trim] at htrim
      rw [ht, htrim]
      simp only [List.append_assoc]
    · rw [List.forall_mem_append]
      exact ⟨hbefore', fun c hc => hkind c (hbefore c hc)⟩
    · rw [List.forall_mem_append]
      exact ⟨fun c hc => hkind c (hafter c hc), hafter'⟩
  · intro h
    refine ⟨[], t.trim, [], ?_, List.forall_mem_nil _, List.forall_mem_nil _, ?_⟩
    · rw [List.nil_append, List.append_nil]
    · exact (isLiteral_iff sparesNumerals_isBlank).1 h

end Text
end Hotspot
