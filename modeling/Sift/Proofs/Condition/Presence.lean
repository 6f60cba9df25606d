import Sift.Proofs.Condition.Expectation
import Sift.Proofs.Pattern.Plain

/-!
# The presence of fields

In the condition on a field, `"$exists": true` adds nothing, `"$exists": false` makes all the rest of it
irrelevant, the two are opposites, and on a missing field no condition is tested (`PresenceLaws`). This
is so for a field that is looked for along its path, and for a member that is looked up by its key under
`$indexEntries` (`isMatch_presence`).

A condition on a field can also be made of a path and a condition (`Condition.ofField`). Then no
expectation is read, and the laws fail (`Condition.ofField_expects_nothing`).
-/

namespace Sift

/-! ## The laws -/

/-- What `$exists` does in the condition on a field. A condition on a missing field is read but not
tested: nothing is entered but the condition that the clause of the field belongs to. -/
structure PresenceLaws [Pattern.Engine] (ask : Json → Evaluation Bool) (start : Cursor) (missing : Prop) : Prop where
  required : ∀ members, Member.lookup "$exists" members = none →
    Succeeds (Condition.ofJson (.object members)) →
    (ask (.object (Member.insert ⟨"$exists", .bool true⟩ members))).result =
      (ask (.object members)).result
  forbidden : ∀ members, Member.lookup "$exists" members = none →
    Succeeds (Condition.ofJson (.object members)) →
    (ask (.object (Member.insert ⟨"$exists", .bool false⟩ members))).result =
      (ask (.single "$exists" (.bool false))).result
  opposite : (ask (.single "$exists" (.bool true))).result =
    (ask (.single "$exists" (.bool false))).result.map (!·)
  absent : missing → ∀ source, Succeeds (Condition.ofJson source) →
    (∃ b, (ask source).result = .ok b ∧ (b = true ↔ source.ExpectsMissing)) ∧
      ∀ c, .entered c ∈ (ask source).log → c = start

theorem PresenceLaws.of_resultFrom [Pattern.Engine] {ask : Json → Evaluation Bool} {start : Cursor} {missing : Prop}
    {name : String} {place : Except Error Cursor}
    (hask : ∀ source, (ask source).result = FieldClause.resultFrom name place source)
    (hmissing : missing → ∃ d, place = .ok d ∧ d.isPresent = false)
    (hlog : missing → ∀ source, Succeeds (Condition.ofJson source) →
      ∀ c, .entered c ∈ (ask source).log → c = start) :
    PresenceLaws ask start missing where
  required members hkey hread := by
    obtain ⟨condition, hread⟩ := hread
    rw [hask, hask, FieldClause.resultFrom_insert_true hkey hread]
  forbidden members hkey hread := by
    obtain ⟨condition, hread⟩ := hread
    rw [hask, hask, FieldClause.resultFrom_insert_false hkey hread, FieldClause.resultFrom_false]
  opposite := by
    rw [hask, hask, FieldClause.resultFrom_true, FieldClause.resultFrom_false]
    cases place with
    | error e => rfl
    | ok d => exact congrArg Except.ok (Bool.not_not _).symm
  absent h source hread := by
    obtain ⟨d, rfl, hd⟩ := hmissing h
    refine ⟨?_, hlog h source hread⟩
    obtain ⟨condition, hread⟩ := hread
    rw [hask]
    exact FieldClause.resultFrom_missing hd hread

/-! ## Fields -/

/-- The cursor where the field of a clause is, at its path from a node that may have fields. -/
def Cursor.fieldAt (c : Cursor) (path : String) : Except Error Cursor :=
  if c.node.acceptsFields then c.follow path else .error (.notAnObject c.node)

theorem Clause.result_field (clause : FieldClause) (c : Cursor) :
    ((Clause.field clause).test c).result =
      c.fieldAt clause.name >>= fun d => (clause.test d).result := by
  rw [Clause.test, Test.result_atPath, Cursor.fieldAt]
  split <;> rfl

section
variable {p : String} (v : Json)

theorem result_isMatch_field [Pattern.Engine] (hp : isReservedKey p = false) (source : Json) :
    (isMatch v (.single p source)).result =
      FieldClause.resultFrom p ((Cursor.root (.value v)).fieldAt p) source := by
  rw [isMatch_field hp, FieldClause.resultFrom]
  cases hclause : FieldClause.ofMember ⟨p, source⟩ with
  | error e => rfl
  | ok clause =>
    obtain ⟨expected, condition, -, -, rfl⟩ := FieldClause.ofMember_eq_ok hclause
    exact Clause.result_field _ _

theorem isMatch_field_missing [Pattern.Engine] (hp : Path.IsField p) (hlacks : (Cursor.root (.value v)).Lacks p)
    {source : Json} (hread : Succeeds (Condition.ofJson source)) :
    ∃ b, isMatch v (.single p source) = ⟨[.entered (.root (.value v))], .ok b⟩ := by
  have haccepts := hlacks.acceptsFields hp
  obtain ⟨condition, hread⟩ := hread
  obtain ⟨d, hfollow, hd⟩ := hlacks
  obtain ⟨expected, -, hclause⟩ := FieldClause.ofMember_of_reads p hread
  have hsource : Condition.ofJson (.single p source) =
      .ok (.clauses [.field ⟨p, expected, condition⟩]) := by
    rw [Condition.ofJson_field hp.not_reserved, hclause]
    rfl
  have htest : (Clause.field ⟨p, expected, condition⟩).test (.root (.value v)) =
      pure (decide (expected = some false)) := by
    rw [Clause.test]
    unfold Test.atPath
    rw [if_pos haccepts, hfollow]
    exact Test.ofField_missing expected condition.test hd
  refine ⟨decide (expected = some false), ?_⟩
  rw [isMatch_of_ofJson hsource, Condition.test_clause, htest]
  rfl

end

/-! ## Members -/

section
variable (members : List Member) (key : String) {source : Json}

theorem Operator.test_entries_singleton {c : Cursor} (hnode : c.node = .value (.object members))
    (clause : FieldClause) :
    (Operator.entries [clause]).test c = Test.atName clause.name clause.test c := by
  rw [Operator.test, FieldClause.memberTests_eq_map, List.map_singleton]
  unfold Test.ofMembers
  rw [hnode]
  exact congrFun (Test.all_singleton _) c

theorem Operator.ofMember_entries_singleton [Pattern.Engine] (source : Json) :
    Operator.ofMember ⟨"$indexEntries", .single key source⟩ =
      (FieldClause.ofMember ⟨key, source⟩).map fun clause => .entries [clause] := by
  rw [Operator.ofMember_entries, List.mapM_cons]
  cases FieldClause.ofMember ⟨key, source⟩ <;> rfl

/-- The member of a clause is looked up by its key, whatever the key is. -/
theorem result_isMatch_entry [Pattern.Engine] (source : Json) :
    (isMatch (.object members) (.single "$indexEntries" (.single key source))).result =
      FieldClause.resultFrom key ((Cursor.root (.value (.object members))).field key) source := by
  have hentries : Keyword.ofKey? "$indexEntries" = some ⟨.entries, false⟩ := rfl
  rw [isMatch_operator hentries, Operator.ofMember_entries_singleton, FieldClause.resultFrom]
  cases hclause : FieldClause.ofMember ⟨key, source⟩ with
  | error e => rfl
  | ok clause =>
    obtain ⟨expected, condition, -, -, rfl⟩ := FieldClause.ofMember_eq_ok hclause
    change ((Operator.entries _).test _).result = _ >>= _
    rw [Operator.test_entries_singleton members rfl]
    unfold Test.atName
    rw [Recorded.result_bind, Recorded.result_ofExcept]
    rfl

theorem Cursor.field_missing (hmissing : Member.lookup key members = none) :
    ∃ d, (Cursor.root (.value (.object members))).field key = .ok d ∧ d.isPresent = false := by
  refine ⟨.child (.root (.value (.object members))) key .absent, ?_, rfl⟩
  rw [Cursor.field, Cursor.node, Node.field?, hmissing]
  rfl

theorem isMatch_entry_missing [Pattern.Engine] (hmissing : Member.lookup key members = none)
    (hread : Succeeds (Condition.ofJson source)) :
    ∃ b, isMatch (.object members) (.single "$indexEntries" (.single key source)) =
      ⟨[.entered (.root (.value (.object members))),
        .answered "$indexEntries" (.root (.value (.object members))) b], .ok b⟩ := by
  obtain ⟨condition, hread⟩ := hread
  obtain ⟨d, hfield, hd⟩ := Cursor.field_missing members key hmissing
  obtain ⟨expected, -, hclause⟩ := FieldClause.ofMember_of_reads key hread
  have hentries : Keyword.ofKey? "$indexEntries" = some ⟨.entries, false⟩ := rfl
  have hsource : Condition.ofJson (.single "$indexEntries" (.single key source)) =
      .ok (.clauses [.operator (.entries [⟨key, expected, condition⟩])]) := by
    rw [Condition.ofJson_operator hentries, Operator.ofMember_entries_singleton, hclause]
    rfl
  have htest : (Operator.entries [⟨key, expected, condition⟩]).test
      (.root (.value (.object members))) = pure (decide (expected = some false)) := by
    rw [Operator.test_entries_singleton members rfl]
    unfold Test.atName
    rw [hfield]
    exact Test.ofField_missing expected condition.test hd
  refine ⟨decide (expected = some false), ?_⟩
  rw [isMatch_of_ofJson hsource, Condition.test_clause]
  simp only [Clause.test, htest]
  rfl

end

/-! ## The laws of matching -/

/-- The laws hold for each field of a value, along its path, and for each member of an object, by its
key. -/
theorem isMatch_presence [Pattern.Engine] (v : Json) :
    (∀ p : String, Path.IsField p →
      PresenceLaws (fun source => isMatch v (.single p source)) (.root (.value v))
        ((Cursor.root (.value v)).Lacks p)) ∧
    ∀ members : List Member, v = .object members → ∀ key : String,
      PresenceLaws (fun source => isMatch v (.single "$indexEntries" (.single key source)))
        (.root (.value v)) (Member.lookup key members = none) := by
  constructor
  · intro p hp
    refine .of_resultFrom (result_isMatch_field v hp.not_reserved) ?_ ?_
    · intro hlacks
      rw [Cursor.fieldAt, if_pos (hlacks.acceptsFields hp)]
      exact hlacks
    · intro hlacks source hread c hc
      obtain ⟨b, heval⟩ := isMatch_field_missing v hp hlacks hread
      rw [heval] at hc
      simpa using hc
  · rintro members rfl key
    refine .of_resultFrom (result_isMatch_entry members key) ?_ ?_
    · exact Cursor.field_missing members key
    · intro hmissing source hread c hc
      obtain ⟨b, heval⟩ := isMatch_entry_missing members key hmissing hread
      rw [heval] at hc
      simpa using hc

section
attribute [local instance] Pattern.Engine.plain

/-- There is nothing above the root that the reference could climb to, and no test that fails on it where
the field is missing. The key of a member is no path. -/
theorem isMatch_presence_untested :
    Path.IsField "a" ∧ (Cursor.root (.value (.object []))).Lacks "a" ∧
    (isMatch (.object []) (.single "a" (.object [⟨"$eq", .single "$field" (.string "../../b")⟩,
      ⟨"$exists", .bool false⟩]))).result = .ok true ∧
    (isMatch (.object [⟨"a", .ofNat 1⟩]) (.single "a"
      (.object [⟨"$eq", .single "$field" (.string "../../b")⟩,
        ⟨"$exists", .bool true⟩]))).result = .error (.navigation .noParent "") ∧
    Member.lookup "$a.b" [] = none ∧
    (isMatch (.object []) (.single "$indexEntries" (.single "$a.b" (.ofNat 1)))).result =
      .ok false := by
  have ha : Path.IsField "a" := ⟨⟨["a"], rfl⟩, rfl, by decide⟩
  have hlacks : (Cursor.root (.value (.object []))).Lacks "a" := ⟨_, rfl, rfl⟩
  have hread : Succeeds (Condition.ofJson (.object
      [⟨"$eq", .single "$field" (.string "../../b")⟩, ⟨"$exists", .bool false⟩])) := ⟨_, rfl⟩
  have hread' : Succeeds (Condition.ofJson (.object
      [⟨"$eq", .single "$field" (.string "../../b")⟩])) := ⟨_, rfl⟩
  obtain ⟨⟨b, hb, hexpects⟩, -⟩ :=
    ((isMatch_presence (.object [])).1 "a" ha).absent hlacks _ hread
  have hrequired := ((isMatch_presence (.object [⟨"a", .ofNat 1⟩])).1 "a" ha).required _ rfl hread'
  obtain ⟨⟨b', hb', hexpects'⟩, -⟩ :=
    ((isMatch_presence (.object [])).2 [] rfl "$a.b").absent rfl (.ofNat 1) ⟨_, rfl⟩
  have hfree : ¬(Json.ofNat 1).ExpectsMissing := nofun
  refine ⟨ha, hlacks, ?_, ?_, rfl, ?_⟩
  · rw [hb, hexpects.mpr rfl]
  · exact hrequired
  · rw [hb', eq_false_of_ne_true (mt hexpects'.mp hfree)]

end

/-! ## Conditions made of a path and a condition -/

namespace Condition

variable {name : String} {source : Json} {condition : Condition}

theorem result_ofField (name : String) (condition : Condition) (c : Cursor) :
    ((ofField name condition).test c).result =
      c.fieldAt name >>= fun d => (Test.ofField none condition.test d).result := by
  rw [ofField, result_clause, Clause.result_field]
  rfl

/-- Without an expectation among its clauses a condition can still be read. -/
theorem reads_of_insert [Pattern.Engine] {m : Member} {members : List Member}
    (hkey : Member.lookup m.key members = none)
    (hread : ofJson (.object (Member.insert m members)) = .ok condition) :
    Succeeds (ofJson (.object members)) := by
  obtain ⟨before, after, rfl, hinsert⟩ := Member.insert_split m hkey
  rw [ofJson_object, hinsert] at hread
  have hall : ∀ n ∈ before ++ m :: after, Succeeds (Clause.ofMember n) :=
    succeeds_mapM_iff.mp (succeeds_map_iff.mp ⟨condition, hread⟩)
  rw [ofJson_object, succeeds_map_iff, succeeds_mapM_iff]
  intro n hn
  refine hall n ?_
  rcases List.mem_append.mp hn with h | h
  · exact List.mem_append_left _ h
  · exact List.mem_append_right _ (List.mem_cons_of_mem _ h)

/-- A condition on a field that is made of a condition, not read, has no expectation about the field,
whatever the condition says. That makes no difference unless the field is expected to be missing. Then
the condition is the one without the expectation, so that it does not hold of a missing field. -/
theorem ofField_expects_nothing [Pattern.Engine] (hname : isReservedKey name = false)
    (hread : ofJson source = .ok condition) (v : Json) :
    (¬source.ExpectsMissing → ((ofField name condition).matchesValue v).result =
      (isMatch v (.single name source)).result) ∧
    (∀ members b, Member.lookup "$exists" members = none →
      source = .object (Member.insert ⟨"$exists", .bool b⟩ members) →
      ((ofField name condition).matchesValue v).result =
        (isMatch v (.single name (.object members))).result) ∧
    (source.ExpectsMissing → ∀ d, (Cursor.root (.value v)).fieldAt name = .ok d →
      (isMatch v (.single name source)).result = .ok (!d.isPresent) ∧
      (d.isPresent = false → ((ofField name condition).matchesValue v).result = .ok false)) := by
  obtain ⟨expected, hexpected, hclause⟩ := FieldClause.ofMember_of_reads name hread
  have hexpects := FieldClause.expectsMissing_iff hexpected
  refine ⟨fun hfree => ?_, ?_, fun hmissing d hplace => ⟨?_, fun hd => ?_⟩⟩
  · rw [matchesValue, result_ofField, result_isMatch_field v hname,
      FieldClause.resultFrom_of_ofMember hclause]
    cases expected with
    | none => rfl
    | some b =>
      cases b with
      | true => simp only [Test.result_ofField_true]
      | false => exact absurd (hexpects.mpr rfl) hfree
  · rintro members b hkey rfl
    obtain ⟨rest, hrest⟩ := reads_of_insert hkey hread
    obtain ⟨condition', hread', hresult⟩ := ofJson_insert_present hkey hrest b
    obtain rfl : condition' = condition := Except.ok.inj (hread'.symm.trans hread)
    have hclause' : FieldClause.ofMember ⟨name, .object members⟩ = .ok ⟨name, none, rest⟩ :=
      FieldClause.ofMember_of_lookup_none name hkey hrest
    rw [matchesValue, result_ofField, result_isMatch_field v hname,
      FieldClause.resultFrom_of_ofMember hclause']
    simp only [Test.result_ofField_congr (hresult _)]
  · obtain rfl := hexpects.mp hmissing
    rw [result_isMatch_field v hname, FieldClause.resultFrom_of_ofMember hclause, hplace]
    exact Test.result_ofField_false condition.test d
  · rw [matchesValue, result_ofField, hplace]
    exact Test.result_ofField_missing none condition.test hd

section
attribute [local instance] Pattern.Engine.plain

/-- The condition on a field that a value stands for holds of an object without the field. The one that is
made of a path and the condition does not, and neither does it do without an expectation. -/
theorem ofField_expects_nothing_missing :
    isReservedKey "a" = false ∧
    ofJson (.single "$exists" (.bool false)) = .ok (ofOperator (.present false)) ∧
    (Json.single "$exists" (.bool false)).ExpectsMissing ∧
    (∃ d, (Cursor.root (.value (.object []))).fieldAt "a" = .ok d ∧ d.isPresent = false) ∧
    (isMatch (.object []) (.single "a" (.single "$exists" (.bool false)))).result = .ok true ∧
    ((ofField "a" (ofOperator (.present false))).matchesValue (.object [])).result = .ok false ∧
    ((ofField "a" (ofOperator (.present false))).matchesValue (.object [⟨"a", .null⟩])).result =
      (isMatch (.object [⟨"a", .null⟩]) (.single "a" (.object []))).result := by
  have hname : isReservedKey "a" = false := rfl
  have hread : ofJson (.single "$exists" (.bool false)) = .ok (ofOperator (.present false)) := rfl
  have hexpects : (Json.single "$exists" (.bool false)).ExpectsMissing := rfl
  have hplace : (Cursor.root (.value (.object []))).fieldAt "a" =
      .ok (.child (.root (.value (.object []))) "a" .absent) := rfl
  obtain ⟨-, -, hmissing⟩ := ofField_expects_nothing hname hread (.object [])
  obtain ⟨-, hinsert, -⟩ := ofField_expects_nothing hname hread (.object [⟨"a", .null⟩])
  obtain ⟨hmatch, hmade⟩ := hmissing hexpects _ hplace
  exact ⟨hname, hread, hexpects, ⟨_, hplace, rfl⟩, hmatch, hmade rfl, hinsert [] false rfl rfl⟩

/-- The two conditions give different results where the field is expected to be missing. -/
theorem ofField_expects_nothing_divergence :
    ¬∀ (name : String) (source : Json) (condition : Condition) (v : Json),
      isReservedKey name = false → ofJson source = .ok condition →
      ((ofField name condition).matchesValue v).result = (isMatch v (.single name source)).result := by
  intro hall
  have hread : ofJson (.single "$exists" (.bool false)) = .ok (ofOperator (.present false)) := rfl
  have hsame := hall "a" (.single "$exists" (.bool false)) _ (.object []) rfl hread
  have hmade : ((ofField "a" (ofOperator (.present false))).matchesValue (.object [])).result =
      .ok false := rfl
  have hmatch : (isMatch (.object []) (.single "a" (.single "$exists" (.bool false)))).result =
      .ok true := rfl
  rw [hmade, hmatch] at hsame
  cases hsame

end

end Condition

end Sift
