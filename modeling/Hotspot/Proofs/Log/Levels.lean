/-
# Names of levels

A level is asked for by a text, of which the name is the upper case without blanks. The names
are those of two tables, of levels and of what is no level, that have none in common:

| name | stands for |
| --- | --- |
| of a level | the level |
| `BASIC_FORMAT`, `_STYLES` | no level |
| any other | `INFO` |

A name that is not ASCII is in neither table, so it does not matter that only an upper case in
ASCII is looked up.
-/

import Hotspot.Log.Level
import Hotspot.Proofs.Text.UpperCase

namespace Hotspot
namespace Log
namespace Level

variable {caller environment : Option Text} {name : Text} {s s' : Setting} {level : Level}
  {value : NoLevel}

/-- The text by which a level is asked for: that of the caller or that of the environment, the
first that is there and not empty, or else `INFO`. -/
def asked : Option Text → Option Text → Text
  | some (c :: t), _ => c :: t
  | _, some (c :: t) => c :: t
  | _, _ => "INFO"

/-- The name by which a level is asked for. -/
def nameAsked (caller environment : Option Text) : Text :=
  (asked caller environment).trim.upper

/-- What a name stands for. -/
inductive StandsFor (name : Text) : Setting → Prop
  | level {level : Level} : (name, level) ∈ named → StandsFor name (.level level)
  | other {value : NoLevel} : (name, value) ∈ others → StandsFor name (.other value)
  | unknown : name ∉ named.map Prod.fst → name ∉ others.map Prod.fst →
    StandsFor name (.level info)

/-- The name that is asked for: the caller's, else that of the environment, else the standard
one. -/
theorem getD_given (caller environment : Option Text) :
    ((given caller).or (given environment)).getD "INFO" = asked caller environment := by
  rcases caller with _ | _ | ⟨c, t⟩ <;> rcases environment with _ | _ | ⟨d, u⟩ <;> rfl

/-! ## The tables -/

/-- What a table has a row for is among its names. -/
theorem mem_keys {α : Type} {table : List (Text × α)} {a : α} (h : (name, a) ∈ table) :
    name ∈ table.map Prod.fst := List.mem_map.2 ⟨(name, a), h, rfl⟩

/-- Where no name has two rows, a name is found just with what its row says. -/
theorem lookup_eq_some_iff_mem {α : Type} {table : List (Text × α)} {a : α}
    (h : (table.map Prod.fst).Nodup) : table.lookup name = some a ↔ (name, a) ∈ table := by
  induction table with
  | nil => simp
  | cons entry table ih =>
    obtain ⟨key, b⟩ := entry
    rw [List.map_cons, List.nodup_cons] at h
    rw [List.lookup_cons, List.mem_cons, Prod.mk.injEq]
    by_cases hkey : name = key
    · subst hkey
      have hnot : (name, a) ∉ table := fun hmem => h.1 (mem_keys hmem)
      simp [hnot, eq_comm]
    · have hbeq : (name == key) = false := beq_false_of_ne hkey
      simp [hbeq, hkey, ih h.2]

/-- A name is not found just if it has no row. -/
theorem lookup_eq_none_iff_notMem {α : Type} {table : List (Text × α)} :
    table.lookup name = none ↔ name ∉ table.map Prod.fst := by
  rw [List.lookup_eq_none_iff, List.mem_map]
  constructor
  · rintro h ⟨entry, hmem, rfl⟩
    simpa using h entry hmem
  · intro h entry hmem
    exact bne_iff_ne.2 fun heq => h ⟨entry, hmem, heq.symm⟩

/-- The names of levels are found as such. -/
theorem lookup_named : named.lookup name = some level ↔ (name, level) ∈ named :=
  lookup_eq_some_iff_mem (by decide)

/-- So are the other names of the module. -/
theorem lookup_others : others.lookup name = some value ↔ (name, value) ∈ others :=
  lookup_eq_some_iff_mem (by decide)

/-- No name is in both tables. -/
theorem notMem_others (hlevel : (name, level) ∈ named) (hother : (name, value) ∈ others) :
    False := by
  have hapart : ∀ name ∈ others.map Prod.fst, name ∉ named.map Prod.fst := by decide
  exact hapart name (mem_keys hother) (mem_keys hlevel)

/-- All these names are ASCII, so no other letter is one of theirs in upper case. -/
theorem isAscii_of_mem (h : name ∈ named.map Prod.fst ++ others.map Prod.fst) :
    Text.IsAscii name := by
  have hall : ∀ name ∈ named.map Prod.fst ++ others.map Prod.fst,
      name.all (fun c => decide (c.val < 0x80)) = true := by decide
  exact CodePoint.isAscii_of_all (hall name h)

/-! ## The law of names -/

/-- What a name is resolved to is what it stands for. -/
theorem standsFor_resolve (caller environment : Option Text) :
    StandsFor (nameAsked caller environment) (resolve caller environment) := by
  rw [resolve, getD_given, nameAsked]
  generalize (asked caller environment).trim = t
  cases hupper : t.upperAscii? with
  | none =>
    have hnot : t.upper ∉ named.map Prod.fst ++ others.map Prod.fst := fun hmem =>
      nomatch hupper.symm.trans (Text.upperAscii?_eq_some_iff.2 ⟨rfl, isAscii_of_mem hmem⟩)
    rw [List.mem_append, not_or] at hnot
    dsimp only
    exact .unknown hnot.1 hnot.2
  | some upper =>
    obtain ⟨rfl, -⟩ := Text.upperAscii?_eq_some_iff.1 hupper
    dsimp only
    cases hother : others.lookup t.upper with
    | some value => exact .other (lookup_others.1 hother)
    | none =>
      cases hlevel : named.lookup t.upper with
      | some level => exact .level (lookup_named.1 hlevel)
      | none =>
        exact .unknown (lookup_eq_none_iff_notMem.1 hlevel) (lookup_eq_none_iff_notMem.1 hother)

/-- A name stands for one thing. -/
theorem StandsFor.unique (h : StandsFor name s) (h' : StandsFor name s') : s = s' := by
  cases h with
  | level hlevel =>
    cases h' with
    | level hlevel' =>
      have hsame := (lookup_named.2 hlevel).symm.trans (lookup_named.2 hlevel')
      rw [Option.some.inj hsame]
    | other hother => exact (notMem_others hlevel hother).elim
    | unknown hlevel' _ => exact absurd (mem_keys hlevel) hlevel'
  | other hother =>
    cases h' with
    | level hlevel => exact (notMem_others hlevel hother).elim
    | other hother' =>
      have hsame := (lookup_others.2 hother).symm.trans (lookup_others.2 hother')
      rw [Option.some.inj hsame]
    | unknown _ hother' => exact absurd (mem_keys hother) hother'
  | unknown hlevel hother =>
    cases h' with
    | level hlevel' => exact absurd (mem_keys hlevel') hlevel
    | other hother' => exact absurd (mem_keys hother') hother
    | unknown => rfl

/-- What a level resolves to is what its name stands for. -/
theorem resolve_eq_iff :
    resolve caller environment = s ↔ StandsFor (nameAsked caller environment) s := by
  constructor
  · rintro rfl
    exact standsFor_resolve caller environment
  · exact (standsFor_resolve caller environment).unique

/-- There is a level for all names but two. -/
theorem exists_level_iff : (∃ level, resolve caller environment = .level level) ↔
    nameAsked caller environment ≠ "BASIC_FORMAT" ∧ nameAsked caller environment ≠ "_STYLES" := by
  have hothers : (nameAsked caller environment ≠ "BASIC_FORMAT" ∧
      nameAsked caller environment ≠ "_STYLES") ↔
      nameAsked caller environment ∉ others.map Prod.fst := by
    simp [others]
  rw [hothers]
  constructor
  · rintro ⟨level, h⟩ hmem
    cases resolve_eq_iff.1 h with
    | level hlevel =>
      obtain ⟨⟨_, value⟩, hother, rfl⟩ := List.mem_map.1 hmem
      exact notMem_others hlevel hother
    | unknown _ hother => exact hother hmem
  · intro hnot
    cases h : resolve caller environment with
    | level level => exact ⟨level, rfl⟩
    | other value =>
      cases resolve_eq_iff.1 h with
      | other hother => exact absurd (mem_keys hother) hnot

end Level
end Log
end Hotspot
