/-
# Log lines read back

Whatever a record has in it, its line is one line of ASCII, and reading it as JSON gives back
what the record says:

| member | value |
| --- | --- |
| `ts` | the timestamp |
| `level`, `logger` | the names of the level and of the logger |
| `msg` | the message |
| a field of which the record has an extra | the extra, or `********` for a secret that is set |
| `exc` | the text of the exception, if there is one |

There are no other members, and texts have their pairs joined. The names of the fields and of
the other members differ, so no member takes the place of another one, and the line has them in
this order. A record whose time is no timestamp has no line; every time within a thousand
million years is one.
-/

import Hotspot.Log.Record
import Hotspot.Proofs.Json.Members
import Mathlib.Data.List.Basic

namespace Hotspot
namespace Log

open Json (IsScalar rejoined)

variable {r : Record} {time : Value} {value : Value} {name stamp message : Text}
  {exception : Option Text} {s : Int}

/-! ## Timestamps -/

/-- Two digits are ASCII. -/
theorem isAscii_twoDigits (n : Nat) : (twoDigits n).IsAscii := by
  rw [twoDigits]
  split
  · exact List.forall_mem_cons.2 ⟨by decide, Text.isAscii_ofNat n⟩
  · exact Text.isAscii_ofNat n

/-- So is a numeral. -/
theorem isAscii_ofInt (i : Int) : (Text.ofInt i).IsAscii := by
  intro c hc
  have hrange := Text.isOneLine_ofInt i c hc
  omega

/-- So is a time stamp, which is made of these. -/
theorem isAscii_timestamp (s : Int) : (timestamp s).IsAscii := by
  have hmark {c : CodePoint} (h : c.val < 0x80) : Text.IsAscii [c] := List.forall_mem_singleton.2 h
  have hdash : Text.IsAscii "-" := hmark (by decide)
  have hcolon : Text.IsAscii ":" := hmark (by decide)
  have hdate := (((isAscii_ofInt (Date.ofDay (s / 86400)).year).append hdash).append
    (isAscii_twoDigits (Date.ofDay (s / 86400)).month)).append hdash
  have hday := (hdate.append (isAscii_twoDigits (Date.ofDay (s / 86400)).day)).append
    (hmark (by decide : (CodePoint.ofChar 'T').val < 0x80))
  have hhour := (hday.append (isAscii_twoDigits ((s % 86400).toNat / 3600))).append hcolon
  have hminute := (hhour.append (isAscii_twoDigits ((s % 86400).toNat / 60 % 60))).append hcolon
  exact (hminute.append (isAscii_twoDigits ((s % 86400).toNat % 60))).append
    (hmark (by decide : (CodePoint.ofChar 'Z').val < 0x80))

/-- A text in ASCII has no pairs. -/
theorem joinPairs_of_isAscii {t : Text} (h : t.IsAscii) : t.joinPairs = t := by
  rw [Text.joinPairs_eq_pairUp, Text.pairUp_of_not_hasSurrogate h.hasSurrogate]

/-- A time that has a stamp is a number of seconds, and its stamp the one of that second. -/
theorem exists_of_timestamp? (h : timestamp? time = .ok stamp) :
    ∃ s, secondOf time = .ok s ∧ stamp = timestamp s := by
  rw [timestamp?] at h
  cases hs : secondOf time with
  | error e =>
    rw [hs] at h
    cases h
  | ok s =>
    rw [hs] at h
    refine ⟨s, rfl, ?_⟩
    simp only [bind, Except.bind] at h
    split at h
    · cases h
    · split at h
      · cases h
      · exact (Except.ok.inj h).symm

/-- A year is one of the 400 of its era, or the one after. -/
theorem exists_year_ofDay (day : Int) : ∃ (ofEra : Nat) (past : Int), ofEra ≤ 400 ∧ 0 ≤ past ∧
    past ≤ 1 ∧ (Date.ofDay day).year = ofEra + (day + 719468) / 146097 * 400 + past := by
  have hday : ((day + 719468) % 146097).toNat < 146097 := by omega
  have hpast (p : Prop) [Decidable p] : 0 ≤ (if p then 1 else 0 : Int) ∧
      (if p then 1 else 0 : Int) ≤ 1 := by
    split <;> decide
  refine ⟨_, _, ?_, (hpast _).1, (hpast _).2, rfl⟩
  show (((day + 719468) % 146097).toNat - ((day + 719468) % 146097).toNat / 1460 +
    ((day + 719468) % 146097).toNat / 36524 - ((day + 719468) % 146097).toNat / 146096) / 365 ≤ 400
  omega

/-- Every second within a thousand million years has a timestamp. -/
theorem timestamp?_of_secondOf (h : secondOf time = .ok s) (hs : s.natAbs ≤ 2 ^ 55) :
    timestamp? time = .ok (timestamp s) := by
  obtain ⟨ofEra, past, hofEra, hmin, hmax, hyear⟩ := exists_year_ofDay (s / 86400)
  have hday : (s / 86400).natAbs ≤ 2 ^ 39 := by omega
  rw [timestamp?, h]
  simp only [bind, Except.bind]
  rw [hyear, if_neg (by simp only [yearLimit, calendarStart]; omega),
    if_neg (by simp only [yearLimit]; omega)]

/-! ## What a record says -/

/-- The names of a record's own parts. -/
def partNames : List Text :=
  ["created", "levelno", "levelname", "name", "msg", "args", "exc_info"]

/-- No extra of a record takes the place of one of its parts. -/
def Record.OwnsParts (r : Record) : Prop := ∀ name ∈ partNames, r.extra? name = none

/-- The extras of a record that its line has fields for. -/
def Record.present (r : Record) : List (Text × Value) :=
  fields.filterMap fun name => (r.extra? name).map fun value => (name, value)

/-- What a line has of a record is scalars: the names of the level and of the logger, and the
extras that there are fields for. -/
structure Record.HasScalars (r : Record) : Prop where
  level : r.levelName.written.IsScalar
  logger : r.loggerName.written.IsScalar
  extras : ∀ name ∈ fields, ∀ value, r.extra? name = some value → value.written.IsScalar

/-- What is read of an extra. -/
def extraSaid (name : Text) (value : Value) : Json :=
  if name = "pre_shared_key" ∧ value.truthy then .text "********" else value.written.rejoined

/-- What is read of the line of a record. -/
def Record.said (r : Record) (stamp message : Text) (exception : Option Text) : Json.Members :=
  let statement : Json.Members :=
    [("ts", .text stamp), ("level", r.levelName.written.rejoined),
      ("logger", r.loggerName.written.rejoined), ("msg", .text message.joinPairs)]
  let told : Json.Members := exception.elim [] fun text => [("exc", .text text.joinPairs)]
  statement ++ r.present.map (fun extra => (extra.1, extraSaid extra.1 extra.2)) ++ told

/-- The names of extras are none of those that every record has. -/
theorem attribute?_of_mem_fields (h : name ∈ fields) : r.attribute? time name = r.extra? name := by
  have hother : ∀ other ∈ fields, other ≠ "created" ∧ other ≠ "levelno" ∧ other ≠ "levelname" ∧
      other ≠ "name" ∧ other ≠ "msg" ∧ other ≠ "args" ∧ other ≠ "exc_info" := by decide
  obtain ⟨h₁, h₂, h₃, h₄, h₅, h₆, h₇⟩ := hother name h
  rw [Record.attribute?, if_neg h₁, if_neg h₂, if_neg h₃, if_neg h₄, if_neg h₅, if_neg h₆,
    if_neg h₇]

/-- The extras that are present are in the order of their names. -/
theorem map_fst_present (r : Record) :
    r.present.map Prod.fst = fields.filter fun name => (r.extra? name).isSome := by
  rw [Record.present]
  induction fields with
  | nil => rfl
  | cons name names ih =>
    cases h : r.extra? name with
    | none =>
      rw [List.filterMap_cons_none (by rw [h]; rfl), ih,
        List.filter_cons_of_neg (by rw [h]; decide)]
    | some value =>
      rw [List.filterMap_cons_some (by rw [h]; rfl), List.map_cons, ih,
        List.filter_cons_of_pos (by rw [h]; rfl)]

/-- And each has the value that the record has for it. -/
theorem mem_present (h : (name, value) ∈ r.present) :
    name ∈ fields ∧ r.extra? name = some value := by
  obtain ⟨other, hother, heq⟩ := List.mem_filterMap.1 h
  obtain ⟨value', hvalue, heq⟩ := Option.map_eq_some_iff.1 heq
  obtain ⟨rfl, rfl⟩ := Prod.mk.inj heq
  exact ⟨hother, hvalue⟩

/-- The extras are set at the end of the line, one after the other. -/
theorem addFields_eq (r : Record) (time : Value) {line : Json.Members}
    (hline : ∀ name ∈ fields, name ∉ line.map Prod.fst) :
    addFields r time fields line = line ++ r.present.map fun p => (p.1, masked p.1 p.2) := by
  have hnodup : (r.present.map Prod.fst).Nodup := by
    have hfields : fields.Nodup := by decide
    rw [map_fst_present]
    exact hfields.filter _
  have hnew : ∀ extra ∈ r.present, extra.1 ∉ line.map Prod.fst :=
    fun extra hextra => hline _ (mem_present hextra).1
  rw [← Json.Members.foldl_set Prod.fst (fun p => masked p.1 p.2) _ _ hnodup hnew, Record.present,
    List.foldl_filterMap, addFields]
  refine List.foldl_ext _ _ _ fun line name hname => ?_
  rw [attribute?_of_mem_fields hname]
  cases r.extra? name <;> rfl

/-! ## Lines -/

/-- The members of the line of a record. -/
def Record.members (r : Record) (stamp message : Text) (exception : Option Text) : Json.Members :=
  let told : Json.Members := exception.elim [] fun text => [("exc", .text text)]
  statement r message [("ts", .text stamp)] ++
    r.present.map (fun extra => (extra.1, masked extra.1 extra.2)) ++ told

/-- The names of the members that a line always has. -/
def statementNames : List Text := ["ts", "level", "logger", "msg"]

/-- The name of the member with the exception. -/
def exceptionName : Text := "exc"

/-- The names of all members that a line may have. -/
def memberNames : List Text := statementNames ++ fields ++ [exceptionName]

/-- The names of a line with all that is in front of an exception. -/
theorem map_fst_present_members (r : Record) (stamp message : Text) :
    (statement r message [("ts", .text stamp)] ++
      r.present.map fun extra => (extra.1, masked extra.1 extra.2)).map Prod.fst =
      statementNames ++ fields.filter fun name => (r.extra? name).isSome := by
  rw [List.map_append, List.map_map, ← map_fst_present]
  rfl

/-- A line has some of the names that there are, in their order and none of them twice. -/
theorem map_fst_members (r : Record) (stamp message : Text) (exception : Option Text) :
    ((r.members stamp message exception).map Prod.fst).Sublist memberNames := by
  rw [Record.members, List.map_append, map_fst_present_members, memberNames]
  refine ((List.Sublist.refl _).append List.filter_sublist).append ?_
  cases exception with
  | none => exact List.nil_sublist _
  | some text => exact List.Sublist.refl _

/-- The line of a record has its members, one after the other. -/
theorem lineMembers_eq (hstamp : timestamp? (r.part "created" time) = .ok stamp)
    (hmessage : r.message = .ok message) (hexception : r.exceptionText? = .ok exception) :
    lineMembers fields time r = .ok (r.members stamp message exception) := by
  have hfields : ∀ name ∈ fields, name ∉ statementNames := by decide
  have hadded : addFields r time fields (statement r message [("ts", .text stamp)]) = _ :=
    addFields_eq r time hfields
  rw [lineMembers, hstamp, hmessage]
  simp only [Except.mapError, bind, Except.bind]
  rw [hadded, hexception, Record.members]
  cases exception with
  | none =>
    rw [Option.elim_none, List.append_nil]
    rfl
  | some text =>
    have hnew : exceptionName ∉ statementNames ++
        fields.filter fun name => (r.extra? name).isSome := by
      rw [List.mem_append, not_or]
      have hother : exceptionName ∉ statementNames ∧ exceptionName ∉ fields := by decide
      exact ⟨hother.1, fun hmem => hother.2 (List.mem_filter.1 hmem).1⟩
    rw [← map_fst_present_members r stamp message] at hnew
    dsimp only
    rw [show Text.ofString "exc" = exceptionName from rfl, Json.Members.set_of_notMem hnew]
    rfl

/-- Masking a scalar leaves a scalar. -/
theorem isScalar_masked (h : value.written.IsScalar) : (masked name value).IsScalar := by
  rw [masked]
  split
  · trivial
  · exact h

/-- What is said of an extra is its value, with its pairs joined, or that it is masked. -/
theorem rejoined_masked (name : Text) (value : Value) :
    (masked name value).rejoined = extraSaid name value := by
  have hmask : mask.joinPairs = "********" := by decide
  have hsecret : secretFields.contains name = true ↔ name = "pre_shared_key" := by
    rw [secretFields, List.contains_iff_mem, List.mem_singleton]
  rw [masked, extraSaid]
  by_cases h : name = "pre_shared_key" ∧ value.truthy = true
  · rw [if_pos h, if_pos (by rw [Bool.and_eq_true, hsecret]; exact h), rejoined, hmask]
  · rw [if_neg h, if_neg (by rw [Bool.and_eq_true, hsecret]; exact h)]

/-- So every member of a line is a scalar. -/
theorem isScalar_of_mem_members (h : r.HasScalars) {m : Text × Json}
    (hm : m ∈ r.members stamp message exception) : m.2.IsScalar := by
  rw [Record.members, List.mem_append, List.mem_append] at hm
  rcases hm with (hm | hm) | hm
  · have hstatement : ∀ m ∈ statement r message [("ts", .text stamp)], m.2.IsScalar :=
      List.forall_mem_cons.2 ⟨trivial, List.forall_mem_cons.2 ⟨h.level,
        List.forall_mem_cons.2 ⟨h.logger, List.forall_mem_singleton.2 trivial⟩⟩⟩
    exact hstatement m hm
  · obtain ⟨⟨name, value⟩, hextra, rfl⟩ := List.mem_map.1 hm
    obtain ⟨hname, hvalue⟩ := mem_present hextra
    exact isScalar_masked (h.extras name hname value hvalue)
  · cases exception with
    | none => cases hm
    | some text =>
      rw [List.mem_singleton.1 hm]
      trivial

/-- The names of members have no pairs to join. -/
theorem joinPairs_of_mem_memberNames (h : name ∈ memberNames) : name.joinPairs = name := by
  have hall : ∀ other ∈ memberNames, other.joinPairs = other := by decide
  exact hall name h

/-- So the members are read as what the record says. -/
theorem map_members (r : Record) (message : Text) (exception : Option Text)
    (hstamp : stamp.IsAscii) :
    (r.members stamp message exception).map (fun m => (m.1.joinPairs, m.2.rejoined)) =
      r.said stamp message exception := by
  rw [Record.members, Record.said, List.map_append, List.map_append]
  refine congrArg₂ (· ++ ·) (congrArg₂ (· ++ ·) ?_ ?_) ?_
  · have hts : ("ts" : Text).joinPairs = "ts" := by decide
    have hlevel : ("level" : Text).joinPairs = "level" := by decide
    have hlogger : ("logger" : Text).joinPairs = "logger" := by decide
    have hmsg : ("msg" : Text).joinPairs = "msg" := by decide
    simp only [statement, List.cons_append, List.nil_append, List.map_cons, List.map_nil, hts,
      hlevel, hlogger, hmsg, rejoined, joinPairs_of_isAscii hstamp]
  · rw [List.map_map]
    refine List.map_congr_left fun extra hextra => ?_
    have hname := (mem_present hextra).1
    rw [Function.comp, rejoined_masked, joinPairs_of_mem_memberNames
      (List.mem_append_left _ (List.mem_append_right _ hname))]
  · cases exception with
    | none => rfl
    | some text => rfl

/-- What comes of a record with a timestamp, a message and what it tells of an exception. -/
theorem exists_line (hstamp : timestamp? (r.part "created" time) = .ok stamp)
    (hmessage : r.message = .ok message) (hexception : r.exceptionText? = .ok exception)
    (hscalars : r.HasScalars) :
    ∃ text, line fields time r = .ok text ∧ text.IsOneLine ∧
      Json.read text = .ok (.object (r.said stamp message exception)) := by
  have hscalar : ∀ m ∈ r.members stamp message exception, m.2.IsScalar :=
    fun m hm => isScalar_of_mem_members hscalars hm
  have hmembers := lineMembers_eq hstamp hmessage hexception
  have hline : line fields time r =
      .ok ((Json.object (r.members stamp message exception)).write Json.compact) := by
    rw [line, hmembers]
    exact if_pos (Json.isWritable_object hscalar)
  obtain ⟨s, -, rfl⟩ := exists_of_timestamp? hstamp
  refine ⟨_, hline, Json.isOneLine_write_object hscalar, ?_⟩
  have hnodup : ((r.members (timestamp s) message exception).map fun m => m.1.joinPairs).Nodup := by
    have hsublist := map_fst_members r (timestamp s) message exception
    have hall : memberNames.Nodup := by decide
    have hnames : (r.members (timestamp s) message exception).map (fun m => m.1.joinPairs) =
        (r.members (timestamp s) message exception).map Prod.fst :=
      List.map_congr_left fun m hm => joinPairs_of_mem_memberNames
        (hsublist.subset (List.mem_map_of_mem hm))
    rw [hnames]
    exact hsublist.nodup hall
  rw [Json.read_write_object hscalar hnodup, map_members r message exception (isAscii_timestamp s)]

/-! ## Records with their own parts -/

/-- A record that owns its parts has its own for each. -/
theorem Record.OwnsParts.part_eq (h : r.OwnsParts) (hname : name ∈ partNames) (own : Value) :
    r.part name own = own := by
  rw [Record.part, h name hname, Option.getD_none]

/-- So the text of its exception is the exception's. -/
theorem Record.OwnsParts.exceptionText? (h : r.OwnsParts) :
    r.exceptionText? = .ok (r.exception.map Exception.text) := by
  rw [Record.exceptionText?, h _ (by decide)]

/-- The extras of a record with its own parts are all that has to be a scalar. -/
theorem Record.OwnsParts.hasScalars (h : r.OwnsParts)
    (hextras : ∀ name ∈ fields, ∀ value, r.extra? name = some value → value.written.IsScalar) :
    r.HasScalars where
  level := by
    rw [Record.levelName, h.part_eq (by decide)]
    trivial
  logger := by
    rw [Record.loggerName, h.part_eq (by decide)]
    trivial
  extras := hextras

/-- **Every line is one line of ASCII and is read back.** A record with its own parts that has a
message, and extras that are scalars, has a line at every time within a thousand million years.
The line is on one line, and as JSON it is what the record says, no member more or less. The same
holds of a record with extras in place of its parts, if its time has a timestamp, its exception
can be told and its names are scalars. -/
theorem line_is_read_back (r : Record) (message : Text) (hmessage : r.message = .ok message) :
    (r.OwnsParts →
      (∀ name ∈ fields, ∀ value, r.extra? name = some value → value.written.IsScalar) →
      ∀ time s, secondOf time = .ok s → s.natAbs ≤ 2 ^ 55 →
      ∃ text, line fields time r = .ok text ∧ text.IsOneLine ∧
        Json.read text = .ok (.object
          (r.said (timestamp s) message (r.exception.map Exception.text)))) ∧
    (r.HasScalars → ∀ time stamp exception, timestamp? (r.part "created" time) = .ok stamp →
      r.exceptionText? = .ok exception →
      ∃ text, line fields time r = .ok text ∧ text.IsOneLine ∧
        Json.read text = .ok (.object (r.said stamp message exception))) := by
  refine ⟨fun hown hextras time s htime hs => ?_,
    fun hscalars time stamp exception hstamp hexception =>
      exists_line hstamp hmessage hexception hscalars⟩
  have hstamp : timestamp? (r.part "created" time) = .ok (timestamp s) := by
    rw [hown.part_eq (by decide)]
    exact timestamp?_of_secondOf htime hs
  exact exists_line hstamp hmessage hown.exceptionText? (hown.hasScalars hextras)

/-- A record with a line break in its template, quotes around an argument, a bell and a lone
surrogate in its logger, a pair of surrogates in an extra, a secret, and an exception. -/
def forgedRecord : Record :=
  { level := 15
    logger := [0x07, 0xDC00]
    template := "a\n\"level\":%s"
    arguments := ["\\u000a"]
    exception := some { kind := "OSError", message := "no\x7F" }
    extras := [("pre_shared_key", .text "secret"), ("op", .text [0xD83D, 0xDE00]),
      ("path", .path (Path.ofText "a//b")), ("rule", .json (.int (-7))), ("other", .null)] }

/-- What is read of its line. -/
def forgedMembers : Json.Members :=
  [("ts", .text "1970-01-01T00:00:00Z"), ("level", .text "Level 15"),
    ("logger", .text [0x07, 0xDC00]), ("msg", .text "a\n\"level\":\\u000a"),
    ("op", .text [0x1F600]), ("path", .text "a/b"), ("rule", .int (-7)),
    ("pre_shared_key", .text "********"), ("exc", .text "OSError: no\x7F")]

/-- Its line is one line, and nothing in it is taken for a member. -/
theorem line_is_read_back_of_forged :
    forgedRecord.message = .ok "a\n\"level\":\\u000a" ∧ forgedRecord.OwnsParts ∧
    (∀ name ∈ fields, ∀ value, forgedRecord.extra? name = some value → value.written.IsScalar) ∧
    ∃ text, line fields (.json (.int 0)) forgedRecord = .ok text ∧ text.IsOneLine ∧
      Json.read text = .ok (.object forgedMembers) := by
  have hmessage : forgedRecord.message = .ok "a\n\"level\":\\u000a" := by rfl
  have hown : forgedRecord.OwnsParts := by
    intro name hname
    have hall : ∀ name ∈ partNames, (forgedRecord.extra? name).isNone := by decide
    exact Option.isNone_iff_eq_none.1 (hall name hname)
  have hextras : ∀ name ∈ fields, ∀ value, forgedRecord.extra? name = some value →
      value.written.IsScalar := by
    have hrule : (-7 : Int).natAbs < 10 ^ 4300 := by decide +kernel
    have hall : ∀ extra ∈ forgedRecord.extras, extra.2.written.IsScalar :=
      List.forall_mem_cons.2 ⟨trivial, List.forall_mem_cons.2 ⟨trivial, List.forall_mem_cons.2
        ⟨trivial, List.forall_mem_cons.2 ⟨hrule, List.forall_mem_singleton.2 trivial⟩⟩⟩⟩
    intro name _ value hvalue
    obtain ⟨before, after, heq, -⟩ := List.lookup_eq_some_iff.1 hvalue
    exact hall (name, value) (heq ▸ List.mem_append_right _ List.mem_cons_self)
  have hstamp : timestamp 0 = "1970-01-01T00:00:00Z" := by decide +kernel
  have hpair : Text.joinPairs [0xD83D, 0xDE00] = [0x1F600] := by decide +kernel
  have hsaid : forgedRecord.said (timestamp 0) "a\n\"level\":\\u000a"
      (forgedRecord.exception.map Exception.text) = forgedMembers := by
    rw [hstamp, forgedMembers, ← hpair]
    rfl
  have hline := (line_is_read_back _ _ hmessage).1 hown hextras (.json (.int 0)) 0 rfl (by decide)
  rw [hsaid] at hline
  exact ⟨hmessage, hown, hextras, hline⟩

end Log
end Hotspot
