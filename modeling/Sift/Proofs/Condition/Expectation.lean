import Sift.Proofs.Condition.Grammar
import Sift.Proofs.Condition.Nesting
import Sift.Proofs.Sequence.Deciding

/-!
# Expectations about the presence of a field

`$exists` in the condition on a field is read twice: as the expectation of the field clause, and as an
operator among the clauses of the condition. The operator always holds, so it changes nothing beside
the others (`Condition.ofJson_insert_present`). The expectation settles the clause where it is that the
field is missing, or where it is not met. `FieldClause.resultFrom` is the result of the clause once it is
known where the field is, and thus what the two readings come to.
-/

namespace Sift

/-! ## Reading -/

namespace Condition

variable [Pattern.Engine] {members : List Member} {condition : Condition}

/-- An expectation among the clauses of a condition changes no result. -/
theorem ofJson_insert_present (hkey : Member.lookup "$exists" members = none)
    (hread : ofJson (.object members) = .ok condition) (b : Bool) :
    ∃ condition', ofJson (.object (Member.insert ⟨"$exists", .bool b⟩ members)) = .ok condition' ∧
      ∀ c, (condition'.test c).result = (condition.test c).result := by
  obtain ⟨before, after, hmembers, hinsert⟩ := Member.insert_split ⟨"$exists", .bool b⟩ hkey
  rw [ofJson_object, hmembers, List.mapM_append] at hread
  obtain ⟨all, hall, rfl⟩ := Except.map_eq_ok.mp hread
  obtain ⟨clauses, hclauses, hall⟩ := Except.bind_eq_ok.mp hall
  obtain ⟨clauses', hclauses', hall⟩ := Except.bind_eq_ok.mp hall
  cases hall
  have hpresent : Clause.ofMember ⟨"$exists", .bool b⟩ = .ok (.operator (.present b)) := by
    have hexists : Keyword.ofKey? "$exists" = some ⟨.present, false⟩ := rfl
    rw [Clause.ofMember_operator hexists, Operator.ofMember_present]
    rfl
  have htest : ∀ c, ((Clause.operator (.present b)).test c).result = .ok true := fun c => rfl
  refine ⟨.clauses (clauses ++ .operator (.present b) :: clauses'), ?_, fun c => ?_⟩
  · rw [ofJson_object, hinsert, List.mapM_append, List.mapM_cons, hclauses, hclauses', hpresent]
    rfl
  · have hremove := Sequence.allMatch_remove (f := fun test : Test => (test c).result) (htest c)
      (clauses.map Clause.test) (clauses'.map Clause.test)
    rw [result_clauses, result_clauses, List.map_append, List.map_append, List.map_cons]
    unfold Test.all
    rw [Sequence.result_allMatch, Sequence.result_allMatch]
    exact hremove

end Condition

namespace FieldClause

variable [Pattern.Engine] (name : String) {source : Json} {condition : Condition}

theorem expectationOf_of_reads (hread : Condition.ofJson source = .ok condition) :
    ∃ expected, expectationOf source = .ok expected := by
  unfold expectationOf
  split
  next => exact ⟨none, rfl⟩
  next expected _ => exact ⟨some expected, rfl⟩
  next found hbool hfound =>
    cases source with
    | object members =>
      have hmem : (⟨"$exists", found⟩ : Member) ∈ members := Member.mem_of_lookup hfound
      rw [Condition.ofJson_object] at hread
      have hclauses : Succeeds (members.mapM Clause.ofMember) :=
        succeeds_map_iff.mp ⟨condition, hread⟩
      have hexists : Keyword.ofKey? "$exists" = some ⟨.present, false⟩ := rfl
      obtain ⟨clause, hclause⟩ := succeeds_mapM_iff.mp hclauses _ hmem
      rw [Clause.ofMember_operator hexists] at hclause
      obtain ⟨op, hop, -⟩ := Except.map_eq_ok.mp hclause
      obtain ⟨expected, rfl⟩ := Operator.bool_of_ofMember hop
      exact absurd rfl (hbool expected)
    | _ => cases hfound

theorem ofMember_of_reads (hread : Condition.ofJson source = .ok condition) :
    ∃ expected, expectationOf source = .ok expected ∧
      ofMember ⟨name, source⟩ = .ok ⟨name, expected, condition⟩ := by
  obtain ⟨expected, hexpected⟩ := expectationOf_of_reads hread
  refine ⟨expected, hexpected, ?_⟩
  rw [ofMember, hexpected, hread]
  rfl

section
variable {members : List Member} (hkey : Member.lookup "$exists" members = none)
  (hread : Condition.ofJson (.object members) = .ok condition)
include hkey hread

theorem ofMember_of_lookup_none : ofMember ⟨name, .object members⟩ = .ok ⟨name, none, condition⟩ := by
  have hexpected : expectationOf (.object members) = .ok none := by
    rw [expectationOf, Json.get?, hkey]
  rw [ofMember, hexpected, hread]
  rfl

theorem ofMember_insert_present (b : Bool) :
    ∃ condition', ofMember ⟨name, .object (Member.insert ⟨"$exists", .bool b⟩ members)⟩ =
        .ok ⟨name, some b, condition'⟩ ∧
      ∀ c, (condition'.test c).result = (condition.test c).result := by
  obtain ⟨condition', hread', hresult⟩ := Condition.ofJson_insert_present hkey hread b
  have hexpected : expectationOf (.object (Member.insert ⟨"$exists", .bool b⟩ members)) =
      .ok (some b) := by
    rw [expectationOf, Json.get?, Member.lookup_insert_self ⟨"$exists", .bool b⟩ members]
  refine ⟨condition', ?_, hresult⟩
  rw [ofMember, hexpected, hread']
  rfl

end

end FieldClause

/-! ## Testing -/

namespace Test

/-- The expectation that a field is missing is all that is asked. -/
theorem result_ofField_false (t : Test) (c : Cursor) :
    (Test.ofField (some false) t c).result = .ok (!c.isPresent) := by
  unfold Test.ofField
  cases c.isPresent <;> rfl

/-- A field that is expected to be present is asked what it is asked without the expectation. -/
theorem result_ofField_true (t : Test) (c : Cursor) :
    (Test.ofField (some true) t c).result = (Test.ofField none t c).result := by
  unfold Test.ofField
  cases c.isPresent <;> rfl

theorem result_ofField_congr {t t' : Test} {c : Cursor} (h : (t c).result = (t' c).result)
    (expected : Option Bool) :
    (Test.ofField expected t c).result = (Test.ofField expected t' c).result := by
  unfold Test.ofField
  split
  · split
    · exact h
    · rfl
  · exact h
  · rfl

end Test

namespace FieldClause

variable [Pattern.Engine]

def resultFrom (name : String) (place : Except Error Cursor) (source : Json) : Except Error Bool :=
  ofMember ⟨name, source⟩ >>= fun clause => place >>= fun c => (clause.test c).result

variable {name : String} {place : Except Error Cursor}

theorem resultFrom_of_ofMember {source : Json} {expected : Option Bool} {condition : Condition}
    (h : ofMember ⟨name, source⟩ = .ok ⟨name, expected, condition⟩) :
    resultFrom name place source =
      place >>= fun c => (Test.ofField expected condition.test c).result := by
  unfold resultFrom
  rw [h]
  rfl

section
variable {members : List Member} (hkey : Member.lookup "$exists" members = none)
  {condition : Condition} (hread : Condition.ofJson (.object members) = .ok condition)
include hkey hread

theorem resultFrom_insert_true :
    resultFrom name place (.object (Member.insert ⟨"$exists", .bool true⟩ members)) =
      resultFrom name place (.object members) := by
  obtain ⟨condition', hclause', hresult⟩ := ofMember_insert_present name hkey hread true
  have hclause : ofMember ⟨name, .object members⟩ = .ok ⟨name, none, condition⟩ :=
    ofMember_of_lookup_none name hkey hread
  rw [resultFrom_of_ofMember hclause', resultFrom_of_ofMember hclause]
  congr 1
  funext c
  rw [Test.result_ofField_true, Test.result_ofField_congr (hresult c)]

theorem resultFrom_insert_false :
    resultFrom name place (.object (Member.insert ⟨"$exists", .bool false⟩ members)) =
      place >>= fun c => .ok (!c.isPresent) := by
  obtain ⟨condition', hclause', -⟩ := ofMember_insert_present name hkey hread false
  rw [resultFrom_of_ofMember hclause']
  simp only [Test.result_ofField_false]

end

theorem resultFrom_false :
    resultFrom name place (.single "$exists" (.bool false)) =
      place >>= fun c => .ok (!c.isPresent) := by
  have hread : Condition.ofJson (.object []) = .ok (.clauses []) := rfl
  exact resultFrom_insert_false rfl hread

theorem resultFrom_true :
    resultFrom name place (.single "$exists" (.bool true)) =
      place >>= fun c => .ok c.isPresent := by
  have hread : Condition.ofJson (.object []) = .ok (.clauses []) := rfl
  have hinsert : resultFrom name place (.single "$exists" (.bool true)) =
      resultFrom name place (.object []) := resultFrom_insert_true rfl hread
  have hclause : ofMember ⟨name, .object []⟩ = .ok ⟨name, none, .clauses []⟩ :=
    ofMember_of_lookup_none name rfl hread
  rw [hinsert, resultFrom_of_ofMember hclause]
  congr 1
  funext c
  by_cases hc : c.isPresent = true
  · rw [Test.result_ofField_none _ hc, hc]
    rfl
  · have hc' : c.isPresent = false := Bool.eq_false_iff.mpr hc
    rw [Test.result_ofField_missing _ _ hc', hc']
    rfl

/-- On a missing field a condition that can be read gives an answer, by its expectation alone. -/
theorem resultFrom_missing {d : Cursor} (hd : d.isPresent = false) {source : Json}
    {condition : Condition} (hread : Condition.ofJson source = .ok condition) :
    ∃ b, resultFrom name (.ok d) source = .ok b ∧ (b = true ↔ source.ExpectsMissing) := by
  obtain ⟨expected, hexpected, hclause⟩ := ofMember_of_reads name hread
  refine ⟨decide (expected = some false), ?_, ?_⟩
  · rw [resultFrom_of_ofMember hclause]
    exact Test.result_ofField_missing expected condition.test hd
  · rw [decide_eq_true_iff, expectsMissing_iff hexpected]

end FieldClause

end Sift
