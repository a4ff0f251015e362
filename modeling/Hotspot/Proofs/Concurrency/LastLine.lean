/-
# The line that decides

Lines are read one after the other, and each one that sets a key undoes what was set before.
Where lines are read to their end, a key has therefore the value of the last line that sets
it, and where there is no such line it has the value that it had (`exists_lastSets`). Lines in
between that say nothing, or have a bad value, have no part in it.

A file is read line by line, so a failure of the file after some lines leaves what these say.
-/

import Hotspot.Proofs.Concurrency.Joining
import Hotspot.Proofs.Concurrency.Values

namespace Hotspot
namespace Concurrency

variable {c c' : Concurrency} {k : Key} {line : Text} {lines : List Text} {d : Directive}
  {i : Int} {last? : Option Int} {fs : FileSystem} {p : Path} {content : Bytes}

/-- What the last line that sets a key sets it to, if there is one. -/
inductive LastSets (k : Key) : List Text → Option Int → Prop
  | last {line : Text} {i : Int} (before after : List Text) (h : Sets k line i)
    (hafter : ∀ other ∈ after, ∀ j, ¬Sets k other j) : LastSets k (before ++ line :: after) (some i)
  | never {lines : List Text} (h : ∀ other ∈ lines, ∀ j, ¬Sets k other j) : LastSets k lines none

/-- A line before others decides if none of these does. -/
theorem LastSets.cons {set? : Option Int} (hset : ∀ i, set? = some i ↔ Sets k line i)
    (h : LastSets k lines last?) : LastSets k (line :: lines) (last?.or set?) := by
  cases h with
  | last before after h hafter => exact .last (line :: before) after h hafter
  | never h =>
    cases set? with
    | some i => exact .last [] lines ((hset i).1 rfl) h
    | none => exact .never (List.forall_mem_cons.2 ⟨fun j hj => (nomatch (hset j).2 hj), h⟩)

/-! ## One line -/

/-- What a directive sets a key to. -/
def Directive.value? (k : Key) : Directive → Option Int
  | .set k' i => if k' = k then some i else .none
  | _ => .none

/-- A directive has a value for a key just if it sets it. -/
theorem Directive.value?_eq_some : d.value? k = some i ↔ d = .set k i := by
  cases d with
  | set k' j =>
    rw [value?, Option.ite_none_right_eq_some, Option.some.injEq, Directive.set.injEq]
  | _ => exact ⟨nofun, nofun⟩

/-- The setting with the keys that have a value set to it. -/
def withValues (c : Concurrency) (station? channel? : Option Int) : Concurrency :=
  { c with
    stationAllowed := station?.elim c.stationAllowed fun i => decide (i = 1)
    channel := channel?.getD c.channel }

/-- A directive is obeyed by taking its values over. -/
theorem apply_eq_withValues (c : Concurrency) (d : Directive) :
    c.apply d = c.withValues (d.value? .station) (d.value? .channel) := by
  cases d with
  | set k i => cases k <;> rfl
  | _ => rfl

/-- Of values taken over twice the last ones count. -/
theorem withValues_withValues (c : Concurrency)
    (station? channel? station'? channel'? : Option Int) :
    (c.withValues station? channel?).withValues station'? channel'? =
      c.withValues (station'?.or station?) (channel'?.or channel?) := by
  cases station'? <;> cases channel'? <;> rfl

/-- A line that is read sets each key to what its value says, and nothing else. -/
theorem obey_eq_ok (h : c.obey (Directive.ofLine line) = .ok c') :
    ∃ station? channel?, (∀ i, station? = some i ↔ Sets .station line i) ∧
      (∀ i, channel? = some i ↔ Sets .channel line i) ∧ c' = c.withValues station? channel? := by
  have hlong : ∀ n, ¬IsOverlong line n := by
    intro n hn
    rw [ofLine_of_isOverlong hn] at h
    cases h
  have hset (k : Key) (i : Int) : (Directive.ofLine line).value? k = some i ↔ Sets k line i :=
    Directive.value?_eq_some.trans ⟨sets_of_ofLine, fun hs => ofLine_of_sets hs hlong⟩
  refine ⟨_, _, hset .station, hset .channel, ?_⟩
  rw [← apply_eq_withValues]
  revert h
  cases Directive.ofLine line with
  | tooLong n => exact nofun
  | _ => exact fun h => (Except.ok.inj h).symm

/-! ## Lines -/

/-- Over lines that are read to their end, each key is set by the last line that sets it. -/
theorem exists_lastSets (h : c.readLines lines = .ok c') :
    ∃ station? channel?, LastSets .station lines station? ∧ LastSets .channel lines channel? ∧
      c' = c.withValues station? channel? := by
  induction lines generalizing c with
  | nil =>
    obtain rfl := Except.ok.inj h
    exact ⟨none, none, .never (List.forall_mem_nil _), .never (List.forall_mem_nil _), rfl⟩
  | cons line lines ih =>
    rw [readLines_cons, bind_eq_ok] at h
    obtain ⟨c₁, hline, hlines⟩ := h
    obtain ⟨station₁?, channel₁?, hstation₁, hchannel₁, rfl⟩ := obey_eq_ok hline
    obtain ⟨station?, channel?, hstation, hchannel, rfl⟩ := ih hlines
    exact ⟨_, _, hstation.cons hstation₁, hchannel.cons hchannel₁, withValues_withValues ..⟩

/-- A file that fails after some lines is read as these. -/
theorem load_of_failing (h : fs.HasFile p content) (c : Concurrency) (n : Nat) (e : IoError) :
    ∃ reading, load fs p c (some (n, e)) = .ok reading ∧
      reading.result = c.readLines ((fileLines content).take n) := by
  rw [load, h.isFile_eq, h.read_eq]
  exact ⟨_, rfl, readEach_eq_readLines c _⟩

/-- **The last line that sets a key decides.** Over lines that are read to their end, the
channel is the integer that the last line sets it to, and stations are allowed if the last
line about them says 1; a key that no line sets keeps its value, and what the overlay says of
two hotspots is kept in any case. A template that is there gives what all of its lines give
together, and if it fails after some lines, what these give. -/
theorem last_line_decides (c : Concurrency) :
    (∀ lines c', c.readLines lines = .ok c' →
      ∃ station? channel?, LastSets .station lines station? ∧ LastSets .channel lines channel? ∧
        c' = { c with
          stationAllowed := station?.elim c.stationAllowed fun i => decide (i = 1)
          channel := channel?.getD c.channel }) ∧
    ∀ fs p content, FileSystem.HasFile fs p content →
      (∃ reading, load fs p c = .ok reading ∧
        reading.result = c.readLines (fileLines content)) ∧
      ∀ n e, ∃ reading, load fs p c (some (n, e)) = .ok reading ∧
        reading.result = c.readLines ((fileLines content).take n) :=
  ⟨fun _ _ => exists_lastSets, fun _ _ _ h => ⟨load_of_hasFile h c, load_of_failing h c⟩⟩

/-- Lines with a `CR` inside a number, a number that does not fit, one behind a blank, one with
a zero in front, and a word. -/
def mixedLines : List Text :=
  ["SAP_CHANNEL:6", "SAP_CHANNEL:+1\x0D1\n", "SAP_CHANNEL:2147483648", "SAP_CHANNEL: 3",
    "ENABLE_STA_SAP_CONCURRENCY:01", "ENABLE_STA_SAP_CONCURRENCY:yes"]

/-- The second line decides, and the fifth one. Of a file that fails after its first line, that
line does. -/
theorem last_line_decides_of_mixed :
    (∃ c', readLines { channel := 2, dualSupported := true } mixedLines = .ok c' ∧
      LastSets .station mixedLines (some 1) ∧ LastSets .channel mixedLines (some 11) ∧
      c' = { stationAllowed := true, channel := 11, dualSupported := true }) ∧
    brokenFiles.HasFile (Path.ofText "first") brokenFirst ∧
    ∃ reading, load brokenFiles (Path.ofText "first") {} (some (1, .refused "I/O error")) =
      .ok reading ∧ reading.result = .ok { channel := 6 } := by
  let c : Concurrency := { channel := 2, dualSupported := true }
  have hread : c.readLines mixedLines =
      .ok { stationAllowed := true, channel := 11, dualSupported := true } := by decide +kernel
  have hfile : brokenFiles.HasFile (Path.ofText "first") brokenFirst :=
    ⟨by decide, 0o644, by decide +kernel⟩
  obtain ⟨station?, channel?, hstation, hchannel, hc'⟩ := (last_line_decides c).1 _ _ hread
  obtain ⟨hallowed, hnumber, -⟩ := Concurrency.mk.inj hc'
  obtain rfl : station? = some 1 := by
    cases station? with
    | none => cases hallowed
    | some i => rw [of_decide_eq_true hallowed.symm]
  obtain rfl : channel? = some 11 := by
    cases channel? with
    | none => exact absurd hnumber (by decide)
    | some i => exact congrArg some hnumber.symm
  obtain ⟨reading, hload, hresult⟩ :=
    ((last_line_decides {}).2 _ _ _ hfile).2 1 (.refused "I/O error")
  refine ⟨⟨_, hread, hstation, hchannel, rfl⟩, hfile, reading, hload, ?_⟩
  rw [hresult]
  decide +kernel

end Concurrency
end Hotspot
