import Sift.Proofs.Condition.Induction
import Sift.Proofs.Condition.Reading

/-!
# Conditions of one clause

A condition that is an object with one key is the clause of that key, for reading as for testing.
`Condition.resultAt_operator` and `Condition.resultAt_field` put the two together: such a condition
fails to be read exactly if the operator or the field clause does, and otherwise has its result at the
cursor. `isMatch` asks at the root of a value.
-/

namespace Sift

theorem Test.all_singleton (test : Test) : Test.all [test] = test := by
  funext c
  have hpure : (fun passed : Bool => if passed then pure true else pure false) =
      (pure : Bool → Evaluation Bool) := by
    funext passed
    cases passed <;> rfl
  calc Test.all [test] c = test c >>= fun passed => if passed then pure true else pure false := rfl
    _ = test c := by rw [hpure, bind_pure]

theorem Test.result_not (test : Test) (c : Cursor) :
    (test.not c).result = (test c).result.map (!·) := by
  unfold Test.not
  rw [Recorded.result_bind]
  cases (test c).result <;> rfl

@[simp] theorem Except.map_bne_false {ε : Type} (x : Except ε Bool) : x.map (· != false) = x := by
  cases x <;> simp [Except.map]

theorem Operator.result_negated (op : Operator) (c : Cursor) :
    ((negated op).test c).result = (op.test c).result.map (!·) := by
  rw [Operator.test, Test.result_not]

theorem Operator.result_signed (negated : Bool) (op : Operator) (c : Cursor) :
    ((signed negated op).test c).result = (op.test c).result.map (· != negated) := by
  cases negated with
  | false =>
    rw [signed, if_neg Bool.false_ne_true, Except.map_bne_false]
  | true =>
    rw [signed, if_pos rfl, Operator.result_negated]
    simp only [Bool.bne_true]

namespace Condition

theorem test_clause (clause : Clause) (c : Cursor) :
    (clauses [clause]).test c = (do Recorded.note (.entered c); clause.test c) := by
  rw [Condition.test, Clause.tests_eq_map, List.map_singleton, Test.all_singleton]

theorem result_clause (clause : Clause) (c : Cursor) :
    ((clauses [clause]).test c).result = (clause.test c).result := by
  rw [test_clause, Recorded.result_bind]
  rfl

theorem result_ofOperator (op : Operator) (c : Cursor) :
    ((ofOperator op).test c).result = (op.test c).result := by
  rw [ofOperator, result_clause, Clause.result_operator]

theorem ofJson_operator [Pattern.Engine] {key : String} {keyword : Keyword}
    (hkey : Keyword.ofKey? key = some keyword) (x : Json) :
    ofJson (.object [⟨key, x⟩]) = (Operator.ofMember ⟨key, x⟩).map ofOperator := by
  rw [ofJson_object, List.mapM_cons, Clause.ofMember_operator hkey]
  cases Operator.ofMember ⟨key, x⟩ <;> rfl

theorem ofJson_field [Pattern.Engine] {name : String} (hname : isReservedKey name = false) (x : Json) :
    ofJson (.object [⟨name, x⟩]) =
      (FieldClause.ofMember ⟨name, x⟩).map fun clause => .clauses [.field clause] := by
  rw [ofJson_object, List.mapM_cons, Clause.ofMember_field hname]
  cases FieldClause.ofMember ⟨name, x⟩ <;> rfl

end Condition

/-- The value that a condition of one clause is read from: an object with one member. -/
abbrev Json.single (key : String) (v : Json) : Json :=
  .object [⟨key, v⟩]

variable [Pattern.Engine]

namespace Condition

/-- The result at a cursor of the condition that a value stands for, or the error of reading it. -/
def resultAt (c : Cursor) (source : Json) : Except Error Bool :=
  ofJson source >>= fun condition => (condition.test c).result

theorem resultAt_of_ofJson {source : Json} {condition : Condition}
    (hread : ofJson source = .ok condition) (c : Cursor) :
    resultAt c source = (condition.test c).result := by
  unfold resultAt
  rw [hread]
  rfl

theorem resultAt_operator {key : String} {keyword : Keyword}
    (hkey : Keyword.ofKey? key = some keyword) (c : Cursor) (x : Json) :
    resultAt c (.single key x) =
      Operator.ofMember ⟨key, x⟩ >>= fun op => (op.test c).result := by
  unfold resultAt
  rw [ofJson_operator hkey]
  cases Operator.ofMember ⟨key, x⟩ with
  | ok op => exact result_ofOperator op c
  | error e => rfl

theorem resultAt_field {name : String} (hname : isReservedKey name = false) (c : Cursor) (x : Json) :
    resultAt c (.single name x) =
      FieldClause.ofMember ⟨name, x⟩ >>= fun clause => ((Clause.field clause).test c).result := by
  unfold resultAt
  rw [ofJson_field hname]
  cases FieldClause.ofMember ⟨name, x⟩ with
  | ok clause => exact result_clause (.field clause) c
  | error e => rfl

/-! ### By the shape of the operand -/

section
variable {key : String} {form : OperandForm} {negated : Bool}

theorem resultAt_condition {make : Condition → Operator}
    (hkey : Keyword.ofKey? key = some ⟨form, negated⟩) (hmake : form.ofCondition? = some make)
    (c : Cursor) (source : Json) :
    resultAt c (.single key source) =
      ofJson source >>= fun condition => ((make condition).test c).result.map (· != negated) := by
  rw [resultAt_operator hkey, Operator.ofMember_condition hkey hmake]
  cases ofJson source with
  | ok condition => exact Operator.result_signed negated (make condition) c
  | error e => rfl

theorem resultAt_branches {connective : Connective}
    (hkey : Keyword.ofKey? key = some ⟨.branches connective, negated⟩) (c : Cursor)
    (sources : List Json) :
    resultAt c (.single key (.array sources)) =
      sources.mapM ofJson >>= fun conditions =>
        ((Operator.branches connective conditions).test c).result.map (· != negated) := by
  rw [resultAt_operator hkey, Operator.ofMember_branches hkey]
  cases sources.mapM ofJson with
  | ok conditions => exact Operator.result_signed negated (.branches connective conditions) c
  | error e => rfl

end

end Condition

theorem result_isMatch (v condition : Json) :
    (isMatch v condition).result =
      Condition.ofJson condition >>= fun c => (c.test (.root (.value v))).result := by
  unfold isMatch
  rw [Recorded.result_bind, Recorded.result_ofExcept]
  rfl

theorem isMatch_of_ofJson {source : Json} {condition : Condition}
    (hread : Condition.ofJson source = .ok condition) (v : Json) :
    isMatch v source = condition.test (.root (.value v)) := by
  unfold isMatch
  rw [hread]
  rfl

/-- A value is matched at the root of its tree. -/
theorem isMatch_eq_resultAt (v source : Json) :
    (isMatch v source).result = Condition.resultAt (.root (.value v)) source :=
  result_isMatch v source

theorem isMatch_operator {key : String} {keyword : Keyword}
    (hkey : Keyword.ofKey? key = some keyword) (v x : Json) :
    (isMatch v (.object [⟨key, x⟩])).result =
      Operator.ofMember ⟨key, x⟩ >>= fun op => (op.test (.root (.value v))).result := by
  rw [isMatch_eq_resultAt, Condition.resultAt_operator hkey]

theorem isMatch_field {name : String} (hname : isReservedKey name = false) (v x : Json) :
    (isMatch v (.object [⟨name, x⟩])).result =
      FieldClause.ofMember ⟨name, x⟩ >>= fun clause =>
        ((Clause.field clause).test (.root (.value v))).result := by
  rw [isMatch_eq_resultAt, Condition.resultAt_field hname]

end Sift
