/-
# Written objects read back

An object whose values are scalars is written on one line, member after member. It is read
back member by member, and each one is set in turn:

| written | read |
| --- | --- |
| `"name":value` before `,` | sets the name to the value, and another member follows |
| `"name":value` before `}` | sets the name to the value, and the object ends |

So what is read are the names and values with their pairs joined, and where two names become
one, the value of the last. With names that stay apart the members are read back one by one.
-/

import Hotspot.Proofs.Json.Scalars

namespace Hotspot
namespace Json

variable {m : Text × Json} {ms done : Members} {name t x rest : Text} {j : Json}
  {fuel room offset : Nat} {d : CodePoint}

/-! ## Setting members -/

/-- A member that is new goes to the end. -/
theorem Members.set_of_notMem (h : name ∉ done.map Prod.fst) (j : Json) :
    Members.set name j done = done ++ [(name, j)] := by
  induction done with
  | nil => rfl
  | cons m done ih =>
    rw [List.map_cons, List.mem_cons, not_or] at h
    rw [Members.set, if_neg (Ne.symm h.1), ih h.2, List.cons_append]

/-- New names that differ are set at the end, one after the other. -/
theorem Members.foldl_set {α : Type} (key : α → Text) (value : α → Json) (items : List α)
    (done : Members) (hnodup : (items.map key).Nodup)
    (hnew : ∀ item ∈ items, key item ∉ done.map Prod.fst) :
    items.foldl (fun done item => Members.set (key item) (value item) done) done =
      done ++ items.map fun item => (key item, value item) := by
  induction items generalizing done with
  | nil => rw [List.foldl_nil, List.map_nil, List.append_nil]
  | cons item items ih =>
    rw [List.map_cons, List.nodup_cons] at hnodup
    rw [List.forall_mem_cons] at hnew
    have hnew' : ∀ other ∈ items, key other ∉ (done ++ [(key item, value item)]).map Prod.fst := by
      intro other hother hmem
      rw [List.map_append, List.map_singleton, List.mem_append, List.mem_singleton] at hmem
      rcases hmem with hmem | heq
      · exact hnew.2 other hother hmem
      · exact hnodup.1 (List.mem_map.2 ⟨other, hother, heq⟩)
    rw [List.foldl_cons, Members.set_of_notMem hnew.1, ih _ hnodup.2 hnew', List.map_cons,
      List.append_assoc, List.singleton_append]

/-! ## Writing -/

/-- A member on one line. -/
def writtenMember (m : Text × Json) : Text :=
  writeText m.1 ++ 0x3A :: m.2.writeAt compact 1

/-- Members are written one by one. -/
theorem writeMembers_eq_map (layout : Layout) (level : Nat) (ms : Members) :
    writeMembers layout level ms = ms.map fun m => (m.1, m.2.writeAt layout level) := by
  induction ms with
  | nil => rfl
  | cons m ms ih => rw [writeMembers, ih, List.map_cons]

/-- The members of an object on one line, between braces. -/
theorem write_object (hne : ms ≠ []) : (Json.object ms).write compact =
    0x7B :: Text.joinWith [0x2C] (ms.map writtenMember) ++ [0x7D] := by
  have hsome : (ms.map writtenMember).isEmpty = false := by
    rw [List.isEmpty_eq_false_iff]
    exact List.map_eq_nil_iff.not.2 hne
  have hcolon : compact.colon = [0x3A] := by decide
  have hcomma : compact.comma = [0x2C] := by decide
  have hnewline (level : Nat) : compact.newline level = [] := rfl
  rw [write, writeAt, writeMembers_eq_map, Layout.arrange, if_neg (by decide), List.map_map]
  calc compact.enclose 0 0x7B 0x7D _
    _ = compact.enclose 0 0x7B 0x7D (ms.map writtenMember) := by
      refine congrArg _ (List.map_congr_left fun m _ => ?_)
      rw [Function.comp, hcolon, writtenMember]
      exact List.append_assoc _ _ _
    _ = _ := by
      rw [Layout.enclose, hsome, if_neg (by decide), hcomma, hnewline, hnewline, List.append_nil,
        List.append_nil]
      rfl

/-! ## Reading -/

/-- Nothing is skipped in front of what is no blank. -/
theorem skipSpace_cons (h : Cursor.isSpace d = false) :
    Cursor.skipSpace ⟨offset, d :: t⟩ = ⟨offset, d :: t⟩ := by
  rw [Cursor.skipSpace, Cursor.skipSpaceFrom, if_neg (by rw [h]; decide)]

/-- So nothing is skipped where a member ends. -/
theorem EndsMember.skipSpace (h : EndsMember x) : Cursor.skipSpace ⟨offset, x⟩ = ⟨offset, x⟩ := by
  cases h <;> exact skipSpace_cons (by decide)

/-- How members are read on behind one of them. -/
def afterMember (fuel room : Nat) (done : Members) (c : Cursor) :
    Except ReadError (Members × Cursor) :=
  match c.ahead with
  | 0x7D :: rest => .ok (done, ⟨c.offset + 1, rest⟩)
  | 0x2C :: rest => readMembers fuel room done (Cursor.skipSpace ⟨c.offset + 1, rest⟩)
  | _ => c.fault .comma

/-- Behind a comma the next member is read. -/
theorem afterMember_comma : afterMember fuel room done ⟨offset, 0x2C :: rest⟩ =
    readMembers fuel room done (Cursor.skipSpace ⟨offset + 1, rest⟩) := rfl

/-- The step of the reader: a member is set, and the reader is behind it. -/
theorem readMembers_member (hm : m.2.IsScalar) (h : EndsMember x) (fuel room offset : Nat)
    (done : Members) : ∃ after,
    readMembers (fuel + 2) room done ⟨offset, writtenMember m ++ x⟩ =
      afterMember (fuel + 1) room (Members.set m.1.joinPairs m.2.rejoined done) ⟨after, x⟩ := by
  obtain ⟨behind, hname⟩ :=
    readString_writeText m.1 (offset + 1) (0x3A :: (m.2.writeAt compact 1 ++ x))
  obtain ⟨d, tail, hvalue, hd⟩ := exists_writeAt hm compact 1
  obtain ⟨after, hread⟩ := readValue_writeAt hm h compact 1 fuel room (behind + 1)
  have hcolon : Cursor.skipSpace ⟨behind, 0x3A :: (m.2.writeAt compact 1 ++ x)⟩ =
      ⟨behind, 0x3A :: (m.2.writeAt compact 1 ++ x)⟩ := skipSpace_cons (by decide)
  have hspace : Cursor.skipSpace ⟨behind + 1, m.2.writeAt compact 1 ++ x⟩ =
      ⟨behind + 1, m.2.writeAt compact 1 ++ x⟩ := by
    rw [hvalue, List.cons_append]
    exact skipSpace_cons hd
  have hahead : writtenMember m ++ x =
      0x22 :: (m.1.flatMap escapePoint ++ 0x22 :: 0x3A :: (m.2.writeAt compact 1 ++ x)) := by
    rw [writtenMember, writeText]
    simp only [List.cons_append, List.append_assoc, List.nil_append]
  refine ⟨after, ?_⟩
  rw [hahead, readMembers]
  simp only [hname, hcolon, hspace, hread, h.skipSpace, bind, Except.bind]
  rfl

/-- The first of several members is written with a comma behind it. -/
theorem joinWith_cons_cons (m next : Text × Json) (ms : Members) :
    Text.joinWith [0x2C] ((m :: next :: ms).map writtenMember) =
      writtenMember m ++ 0x2C :: Text.joinWith [0x2C] ((next :: ms).map writtenMember) := by
  rw [Text.joinWith, List.map_cons, List.map_cons, List.intercalate_cons_cons, ← List.map_cons,
    ← Text.joinWith, List.append_assoc, List.singleton_append]

/-- A single one is written without. -/
theorem joinWith_singleton (m : Text × Json) :
    Text.joinWith [0x2C] ([m].map writtenMember) = writtenMember m := by
  rw [Text.joinWith, List.map_singleton, List.intercalate_singleton]

/-- Members start with the quote of a name. -/
theorem exists_joinWith_cons (m : Text × Json) (ms : Members) :
    ∃ tail, Text.joinWith [0x2C] ((m :: ms).map writtenMember) = 0x22 :: tail := by
  cases ms with
  | nil => exact ⟨_, joinWith_singleton m⟩
  | cons next ms => exact ⟨_, joinWith_cons_cons m next ms⟩

/-- Every member takes some of the text. -/
theorem length_le_joinWith (ms : Members) :
    ms.length ≤ (Text.joinWith [0x2C] (ms.map writtenMember)).length := by
  induction ms with
  | nil => exact Nat.zero_le _
  | cons m ms ih =>
    cases ms with
    | nil =>
      rw [joinWith_singleton]
      exact Nat.succ_le_succ (Nat.zero_le _)
    | cons next ms =>
      rw [joinWith_cons_cons, List.length_append]
      simp only [List.length_cons] at ih ⊢
      omega

/-- Members are read back one after the other, up to the brace behind the last one. -/
theorem readMembers_written (hne : ms ≠ []) (hscalar : ∀ m ∈ ms, m.2.IsScalar)
    (hfuel : ms.length < fuel) (room offset : Nat) (done : Members) (rest : Text) : ∃ after,
    readMembers fuel room done
        ⟨offset, Text.joinWith [0x2C] (ms.map writtenMember) ++ 0x7D :: rest⟩ =
      .ok (ms.foldl (fun done m => Members.set m.1.joinPairs m.2.rejoined done) done,
        ⟨after, rest⟩) := by
  induction ms generalizing fuel offset done with
  | nil => exact absurd rfl hne
  | cons m ms ih =>
    rw [List.forall_mem_cons] at hscalar
    rw [List.length_cons] at hfuel
    obtain ⟨fuel, rfl⟩ : ∃ k, fuel = k + 2 := ⟨fuel - 2, by omega⟩
    cases ms with
    | nil =>
      obtain ⟨after, hafter⟩ := readMembers_member hscalar.1 (.brace rest) fuel room offset done
      rw [joinWith_singleton, hafter]
      exact ⟨_, rfl⟩
    | cons next ms =>
      obtain ⟨after, hafter⟩ := readMembers_member hscalar.1
        (.comma (Text.joinWith [0x2C] ((next :: ms).map writtenMember) ++ 0x7D :: rest))
        fuel room offset done
      obtain ⟨tail, htail⟩ := exists_joinWith_cons next ms
      obtain ⟨last, hlast⟩ := ih (List.cons_ne_nil _ _) hscalar.2 (Nat.lt_of_succ_lt_succ hfuel)
        (after + 1) (Members.set m.1.joinPairs m.2.rejoined done)
      refine ⟨last, ?_⟩
      rw [joinWith_cons_cons, List.append_assoc, List.cons_append, hafter, List.foldl_cons,
        ← hlast, afterMember_comma, htail, List.cons_append,
        skipSpace_cons (by decide : Cursor.isSpace 0x22 = false)]

/-! ## Objects -/

/-- A brace with a quote behind it starts an object that has members. -/
theorem readValue_brace (t : Text) :
    readValue (fuel + 1) (room + 1) ⟨offset, 0x7B :: 0x22 :: t⟩ = (do
      let (members, c) ← readMembers fuel room [] ⟨offset + 1, 0x22 :: t⟩
      pure (.object members, c)) := rfl

/-- **An object of scalars is read back**, with names and texts paired up: by induction on its
members, with those that were read as the invariant. -/
theorem readValue_object (hne : ms ≠ []) (hscalar : ∀ m ∈ ms, m.2.IsScalar)
    (hfuel : ms.length < fuel) (room offset : Nat) : ∃ after,
    readValue (fuel + 1) (room + 1)
        ⟨offset, 0x7B :: Text.joinWith [0x2C] (ms.map writtenMember) ++ [0x7D]⟩ =
      .ok (.object (ms.foldl (fun done m => Members.set m.1.joinPairs m.2.rejoined done) []),
        ⟨after, []⟩) := by
  obtain ⟨after, hafter⟩ := readMembers_written hne hscalar hfuel room (offset + 1) [] []
  obtain ⟨m, ms, rfl⟩ := List.exists_cons_of_ne_nil hne
  obtain ⟨tail, htail⟩ := exists_joinWith_cons m ms
  refine ⟨after, ?_⟩
  rw [htail, List.cons_append] at hafter
  rw [htail, List.cons_append, List.cons_append, readValue_brace, hafter]
  rfl

/-- **A written object of scalars is read back**, with its pairs joined. -/
theorem read_write_object (hscalar : ∀ m ∈ ms, m.2.IsScalar)
    (hnodup : (ms.map fun m => m.1.joinPairs).Nodup) :
    read ((Json.object ms).write compact) =
      .ok (.object (ms.map fun m => (m.1.joinPairs, m.2.rejoined))) := by
  by_cases hne : ms = []
  · subst hne
    rfl
  have hlength : ms.length < 2 * ((Json.object ms).write compact).length + 1 := by
    have hmembers := length_le_joinWith ms
    rw [write_object hne, List.length_append, List.length_cons]
    omega
  obtain ⟨after, hafter⟩ := readValue_object hne hscalar hlength (depthLimit - 1) 0
  rw [Members.foldl_set (fun m : Text × Json => m.1.joinPairs) (fun m => m.2.rejoined) ms []
    hnodup fun _ _ => List.not_mem_nil, List.nil_append, ← write_object hne] at hafter
  have hstart : Cursor.skipSpace ⟨0, (Json.object ms).write compact⟩ =
      ⟨0, (Json.object ms).write compact⟩ := by
    rw [write_object hne, List.cons_append]
    exact skipSpace_cons (by decide)
  rw [read, readWithin.eq_def]
  split
  · next heq =>
    rw [write_object hne] at heq
    exact absurd (List.cons.inj heq).1 (by decide)
  · rw [hstart, show depthLimit = depthLimit - 1 + 1 from rfl, hafter]
    rfl

/-- An object of scalars can be written. -/
theorem isWritable_object (hscalar : ∀ m ∈ ms, m.2.IsScalar) :
    (Json.object ms).isWritable = true := by
  rw [isWritable]
  induction ms with
  | nil => rfl
  | cons m ms ih =>
    rw [List.forall_mem_cons] at hscalar
    rw [membersAreWritable, Bool.and_eq_true]
    refine ⟨?_, ih hscalar.2⟩
    cases h : m.2 with
    | int i =>
      have hi := hscalar.1
      rw [h, IsScalar] at hi
      rw [isWritable]
      exact Text.writable_iff.2 hi
    | array | object =>
      have hm := hscalar.1
      rw [h, IsScalar] at hm
      exact hm.elim
    | null | bool | double | text => rfl

/-- A written object of scalars is on one line. -/
theorem isOneLine_write_object (hscalar : ∀ m ∈ ms, m.2.IsScalar) :
    ((Json.object ms).write compact).IsOneLine := by
  have hpoint (c : CodePoint) (h : 0x20 ≤ c.val ∧ c.val ≤ 0x7E) : Text.IsOneLine [c] :=
    List.forall_mem_singleton.2 h
  have hmembers : (Text.joinWith [0x2C] (ms.map writtenMember)).IsOneLine := by
    induction ms with
    | nil => exact Text.isOneLine_nil
    | cons m ms ih =>
      rw [List.forall_mem_cons] at hscalar
      have hm : (writtenMember m).IsOneLine := Text.isOneLine_append.2
        ⟨isOneLine_writeText _, Text.isOneLine_cons.2
          ⟨by decide, isOneLine_writeAt hscalar.1 compact 1⟩⟩
      cases ms with
      | nil =>
        rw [joinWith_singleton]
        exact hm
      | cons next ms =>
        rw [joinWith_cons_cons]
        exact Text.isOneLine_append.2 ⟨hm, Text.isOneLine_cons.2 ⟨by decide, ih hscalar.2⟩⟩
  by_cases hne : ms = []
  · subst hne
    exact Text.isOneLine_cons.2 ⟨by decide, hpoint _ (by decide)⟩
  · rw [write_object hne, List.cons_append]
    exact Text.isOneLine_cons.2
      ⟨by decide, Text.isOneLine_append.2 ⟨hmembers, hpoint _ (by decide)⟩⟩

end Json
end Hotspot
