/-
# Lines that are skipped

A line whose value is no integer of 32 bits is skipped: the lines around it are read as if it
were not there. But a numeral of over 4300 digits ends the reading, whatever its integer.

| value | the line |
| --- | --- |
| `abc`, none at all | is skipped |
| `2147483648`, and up to 4300 digits | is skipped |
| `0…01` of 4301 digits | ends the reading |
-/

import Hotspot.Proofs.Concurrency.Joining
import Hotspot.Proofs.Concurrency.Values

namespace Hotspot
namespace Concurrency

variable {c : Concurrency} {line : Text} {before after : List Text} {n : Nat}

/-- A line that sets nothing, and does not end the reading, changes nothing. -/
theorem obey_of_not_sets (hset : ∀ k i, ¬Sets k line i) (hlong : ∀ n, ¬IsOverlong line n)
    (c : Concurrency) : c.obey (Directive.ofLine line) = .ok c := by
  have hsays := says_ofLine line
  generalize Directive.ofLine line = d at hsays ⊢
  cases hsays with
  | nothing h => rfl
  | noNumeral hvalue h => rfl
  | tooLong h => exact absurd h (hlong _)
  | outOfRange hvalue hnumeral h => rfl
  | setting h => exact absurd h (hset _ _)

/-- A line that sets nothing and does not end the reading may be left out. -/
theorem readLines_skip (hset : ∀ k i, ¬Sets k line i) (hlong : ∀ n, ¬IsOverlong line n) :
    c.readLines (before ++ line :: after) = c.readLines (before ++ after) := by
  rw [readLines_append, readLines_append]
  refine bind_congr fun c' => ?_
  rw [readLines_cons, obey_of_not_sets hset hlong]
  rfl

/-- The first numeral of too many digits ends the reading. -/
theorem readLines_of_isOverlong (hbefore : ∀ other ∈ before, ∀ n, ¬IsOverlong other n)
    (h : IsOverlong line n) : c.readLines (before ++ line :: after) = .error ⟨n⟩ := by
  obtain ⟨c', hc'⟩ := exists_readLines_iff.2 hbefore
  rw [readLines_append, hc']
  show c'.readLines (line :: after) = .error ⟨n⟩
  rw [readLines_cons, ofLine_of_isOverlong h]
  rfl

/-- **Every bad value is skipped but a numeral of too many digits.** Lines are read to their
end exactly if no value in them is a numeral of over 4300 digits, and the first one that is
ends the reading. A line without such a numeral that sets nothing may as well be left out. The
lines of a template that is there are no exception. -/
theorem bad_values_are_skipped (c : Concurrency) :
    (∀ lines, (∃ c', c.readLines lines = .ok c') ↔ ∀ line ∈ lines, ∀ n, ¬IsOverlong line n) ∧
    (∀ before line after n, (∀ other ∈ before, ∀ m, ¬IsOverlong other m) → IsOverlong line n →
      c.readLines (before ++ line :: after) = .error ⟨n⟩) ∧
    (∀ before line after, (∀ k i, ¬Sets k line i) → (∀ n, ¬IsOverlong line n) →
      c.readLines (before ++ line :: after) = c.readLines (before ++ after)) ∧
    ∀ fs p content, FileSystem.HasFile fs p content → ∃ reading, load fs p c = .ok reading ∧
      ((∃ c', reading.result = .ok c') ↔
        ∀ line ∈ fileLines content, ∀ n, ¬IsOverlong line n) := by
  refine ⟨fun _ => exists_readLines_iff, fun _ _ _ _ => readLines_of_isOverlong,
    fun _ _ _ => readLines_skip, fun fs p content h => ?_⟩
  obtain ⟨reading, hload, hresult⟩ := load_of_hasFile h c
  refine ⟨reading, hload, ?_⟩
  rw [hresult]
  exact exists_readLines_iff

/-- The channel as a numeral of nothing but ones. -/
def onesLine (n : Nat) : Text := Key.channel.start ++ List.replicate n 0x31

/-- Many ones are too many. -/
theorem isOverlong_onesLine (h : 4300 < n) : IsOverlong (onesLine n) n := by
  have hdigits : Text.IsDigits (List.replicate n 0x31) _ :=
    ⟨List.ne_nil_of_length_pos (by rw [List.length_replicate]; omega),
      fun x hx => by rw [List.eq_of_mem_replicate hx]; decide, rfl⟩
  refine ⟨.channel, _, _, _, ⟨_, rfl, ?_⟩, .unsigned hdigits, List.length_replicate, h⟩
  rw [List.filter_replicate_of_pos (by decide)]

/-- A line that does not end the reading has no value with too many digits. -/
theorem not_isOverlong_of_endsReading (h : endsReading line = false) : ∀ n, ¬IsOverlong line n :=
  fun n hn => Bool.false_ne_true (h.symm.trans (endsReading_iff.2 ⟨n, hn⟩))

/-- A channel that just does not fit is skipped, and one of 4301 digits ends the reading. -/
theorem bad_values_are_skipped_of_large :
    (∀ k i, ¬Sets k "SAP_CHANNEL:2147483648" i) ∧
    (∀ n, ¬IsOverlong "SAP_CHANNEL:2147483648" n) ∧ IsOverlong (onesLine 4301) 4301 ∧
    readLines {} ["SAP_CHANNEL:6", "SAP_CHANNEL:2147483648", "ENABLE_STA_SAP_CONCURRENCY:1"] =
      .ok { stationAllowed := true, channel := 6 } ∧
    readLines {} ["SAP_CHANNEL:2147483648", onesLine 4301, "SAP_CHANNEL:6"] = .error ⟨4301⟩ ∧
    brokenFiles.HasFile (Path.ofText "first") brokenFirst ∧
    ∃ reading c', load brokenFiles (Path.ofText "first") {} = .ok reading ∧
      reading.result = .ok c' := by
  have hlong : ∀ n, ¬IsOverlong "SAP_CHANNEL:2147483648" n :=
    not_isOverlong_of_endsReading (by decide)
  have hset : ∀ k i, ¬Sets k "SAP_CHANNEL:2147483648" i := by
    intro k i h
    have hbad : Directive.ofLine "SAP_CHANNEL:2147483648" = .bad .channel := by decide
    exact nomatch hbad.symm.trans (ofLine_of_sets h hlong)
  have hones := isOverlong_onesLine (show 4300 < 4301 by decide)
  have hfile : brokenFiles.HasFile (Path.ofText "first") brokenFirst :=
    ⟨by decide, 0o644, by decide +kernel⟩
  obtain ⟨-, hended, hskipped, hload⟩ := bad_values_are_skipped {}
  obtain ⟨reading, hreading, hread⟩ := hload _ _ _ hfile
  have hlines : ∀ line ∈ fileLines brokenFirst, endsReading line = false := by decide +kernel
  obtain ⟨c', hc'⟩ := hread.2 fun line hline => not_isOverlong_of_endsReading (hlines line hline)
  refine ⟨hset, hlong, hones, ?_, ?_, hfile, reading, c', hreading, hc'⟩
  · exact (hskipped ["SAP_CHANNEL:6"] _ ["ENABLE_STA_SAP_CONCURRENCY:1"] hset hlong).trans
      (by decide)
  · exact hended ["SAP_CHANNEL:2147483648"] _ ["SAP_CHANNEL:6"] _
      (List.forall_mem_singleton.2 hlong) hones

/-- So there are lines that are not read to their end. -/
theorem not_reads_ones :
    ¬ ∀ (c : Concurrency) (lines : List Text), ∃ c', c.readLines lines = .ok c' := by
  intro h
  have hones := isOverlong_onesLine (show 4300 < 4301 by decide)
  exact exists_readLines_iff.1 (h {} [onesLine 4301]) _ List.mem_cons_self _ hones

end Concurrency
end Hotspot
