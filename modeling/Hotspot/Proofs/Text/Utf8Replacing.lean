/-
# Reading any bytes

A lenient reader of text files turns each fault into `U+FFFD`. How far a fault goes is told
by the bytes before it, and a byte below `80` is never part of one: it continues no
sequence. So such a byte is read as its own code point whatever is around it, the bytes
before it are read as if they were all, and so are those after it
(`decodeReplacing_append_cons`).

| before the byte | a fault for | without the byte |
| --- | --- | --- |
| whole sequences | no reason | the same |
| the start of a sequence | the byte, which does not continue it | the end, which comes too soon |
-/

import Hotspot.Proofs.Text.Utf8Reading

namespace Hotspot
namespace Utf8

variable {b e : UInt8} {bytes rest : Bytes}

/-! ## Steps -/

/-- The code point that is read in a step, or put in place of a fault. -/
def Step.shown : Step → CodePoint
  | .point c _ => c
  | .fault .. => 0xFFFD

/-- Each step shows one code point, whether or not there was one. -/
theorem decodeReplacingFrom_cons (done : Text) (b : UInt8) (bytes : Bytes) :
    decodeReplacingFrom done (b :: bytes) =
      decodeReplacingFrom ((step b bytes).shown :: done) (step b bytes).rest := by
  rw [decodeReplacingFrom]
  split
  · next hstep =>
    rw [hstep]
    rfl
  · next hstep =>
    rw [hstep]
    rfl

/-- What was read earlier has no part in what is read. -/
theorem decodeReplacingFrom_append (done earlier : Text) (bytes : Bytes) :
    decodeReplacingFrom (done ++ earlier) bytes =
      earlier.reverse ++ decodeReplacingFrom done bytes := by
  fun_induction decodeReplacingFrom done bytes with
  | case1 done => rw [decodeReplacingFrom, List.reverse_append]
  | case2 done b bytes c rest hstep ih =>
    rw [decodeReplacingFrom_cons, hstep]
    exact ih
  | case3 done b bytes reason width rest hstep ih =>
    rw [decodeReplacingFrom_cons, hstep]
    exact ih

@[simp] theorem decodeReplacing_nil : decodeReplacing [] = [] := by
  rw [decodeReplacing, decodeReplacingFrom, List.reverse_nil]

/-- Bytes are read a step at a time. -/
theorem decodeReplacing_cons (b : UInt8) (bytes : Bytes) :
    decodeReplacing (b :: bytes) = (step b bytes).shown :: decodeReplacing (step b bytes).rest := by
  rw [decodeReplacing, decodeReplacingFrom_cons]
  exact decodeReplacingFrom_append [] [(step b bytes).shown] _

/-! ## A byte below `80` -/

/-- One step is what another one is before further bytes. -/
def Step.Precedes (s s' : Step) (further : Bytes) : Prop :=
  s'.shown = s.shown ∧ s'.rest = s.rest ++ further

/-- An ASCII byte is in no range of trailing bytes. -/
theorem not_mem_of_lt {low high : UInt8} (he : e < 0x80) (hlow : 0x80 ≤ low) :
    (decide (low ≤ e) && decide (e ≤ high)) = false := by
  rw [Bool.and_eq_false_iff, decide_eq_false_iff_not, UInt8.not_le]
  exact .inl (UInt8.lt_of_lt_of_le he hlow)

/-- No first byte announces an ASCII byte as the second one. -/
theorem le_low_of_lead {lead : Lead} (hlead : lead? b = some lead) : 0x80 ≤ lead.low := by
  unfold lead? at hlead
  split_ifs at hlead
  all_goals
    rw [← Option.some.inj hlead]
    dsimp only
    decide

/-- Trail bytes are looked for as far as the byte. -/
theorem trail_append (he : e < 0x80) (more payload width : Nat) (bytes rest : Bytes) :
    (trail more payload width bytes).Precedes (trail more payload width (bytes ++ e :: rest))
      (e :: rest) := by
  induction more generalizing payload width bytes with
  | zero =>
    rw [trail, trail]
    exact ⟨rfl, rfl⟩
  | succ more ih =>
    cases bytes with
    | nil =>
      rw [List.nil_append, trail, trail, isTrail, not_mem_of_lt he (UInt8.le_refl _)]
      exact ⟨rfl, rfl⟩
    | cons b bytes =>
      rw [List.cons_append, trail, trail]
      split
      · exact ih ..
      · exact ⟨rfl, rfl⟩

/-- A step goes as far as the byte. -/
theorem step_append (he : e < 0x80) (b : UInt8) (bytes rest : Bytes) :
    (step b bytes).Precedes (step b (bytes ++ e :: rest)) (e :: rest) := by
  unfold step
  by_cases hb : b < 0x80
  · rw [if_pos hb, if_pos hb]
    exact ⟨rfl, rfl⟩
  rw [if_neg hb, if_neg hb]
  cases hlead : lead? b with
  | none => exact ⟨rfl, rfl⟩
  | some lead =>
    cases bytes with
    | nil =>
      simp only [List.nil_append, not_mem_of_lt he (le_low_of_lead hlead), Bool.false_eq_true,
        if_false]
      exact ⟨rfl, rfl⟩
    | cons second bytes =>
      simp only [List.cons_append]
      split
      · exact trail_append he ..
      · exact ⟨rfl, rfl⟩

/-- An ASCII byte is a code point by itself. -/
theorem step_of_lt (he : e < 0x80) (rest : Bytes) :
    step e rest = .point (CodePoint.ofNat e.toNat) rest := by
  rw [step, if_pos he]

/-- **A byte below `80` stands by itself.** Any bytes, whole sequences or not, are read up to
it and after it as they are without it. -/
theorem decodeReplacing_append_cons (he : e < 0x80) (bytes rest : Bytes) :
    decodeReplacing (bytes ++ e :: rest) =
      decodeReplacing bytes ++ CodePoint.ofNat e.toNat :: decodeReplacing rest := by
  -- a step may leave any of the bytes that follow it, so the induction is on how many there are
  induction hn : bytes.length using Nat.strongRecOn generalizing bytes with
  | _ n ih =>
    subst hn
    cases bytes with
    | nil =>
      rw [List.nil_append, decodeReplacing_cons, step_of_lt he, decodeReplacing_nil,
        List.nil_append]
      rfl
    | cons b bytes =>
      obtain ⟨hshown, hrest⟩ := step_append he b bytes rest
      have hlt : (step b bytes).rest.length < (b :: bytes).length :=
        Nat.lt_succ_of_le (length_rest_step b bytes)
      rw [List.cons_append, decodeReplacing_cons, decodeReplacing_cons, hshown, hrest,
        ih _ hlt _ rfl, List.cons_append]

/-- The start of a sequence before the byte is one fault, which leaves the byte alone. -/
example : decodeReplacing [0xF0, 0x9F, 0x98, 0x0A, 0x80] = [0xFFFD, 0x0A, 0xFFFD] := by
  decide +kernel

end Utf8
end Hotspot
