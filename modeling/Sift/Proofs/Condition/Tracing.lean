import Sift.Proofs.Condition.Grammar
import Sift.Proofs.Condition.Single
import Sift.Proofs.Pattern.Plain

/-!
# Negation on record

An operator notes its answer after those of the conditions nested in it. The operator under a negation
notes none of its own, and what it does is the same with and without the negation. So the record of a
negated operator differs from that of its sibling in the last answer only, if there is one
(`Operator.opposed_negated`), and a condition under `$not` is on record as it is alone, with one more
answer (`Condition.negatedBy_not`). `Condition.record_negation` states both for the keys: the negated
ones are listed in `Keyword.negations`, and their operands are read alike (`Operator.readsNegated`).
-/

namespace Sift

/-! ## Records of operators -/

theorem Test.log_not (t : Test) (c : Cursor) : (t.not c).log = (t c).log := by
  unfold Test.not
  cases hresult : (t c).result with
  | ok holds =>
    rw [Recorded.bind_of_ok hresult]
    exact List.append_nil _
  | error e => rw [Recorded.bind_of_error hresult]

theorem answers_append (log log' : List Event) :
    answers (log ++ log') = answers log ++ answers log' :=
  List.filterMap_append

namespace Condition

variable {op : Operator} {c : Cursor}

/-- The answer of an operator comes last. -/
theorem answers_ofOperator {holds : Bool} (h : (op.test c).result = .ok holds) :
    answers ((ofOperator op).test c).log =
      answers (op.test c).log ++ [⟨op.name, c.node.text, c.pathText, holds⟩] := by
  have hclause : (Clause.operator op).test c =
      ⟨(op.test c).log ++ [.answered op.name c holds], .ok holds⟩ := by
    rw [Clause.test]
    exact Recorded.bind_of_ok h _
  rw [ofOperator, test_clause, hclause]
  change answers ([.entered c] ++ ((op.test c).log ++ [.answered op.name c holds])) = _
  rw [answers_append, answers_append]
  rfl

/-- An operator that fails gives no answer. -/
theorem answers_ofOperator_of_error {e : Error} (h : (op.test c).result = .error e) :
    answers ((ofOperator op).test c).log = answers (op.test c).log := by
  have hclause : (Clause.operator op).test c = ⟨(op.test c).log, .error e⟩ := by
    rw [Clause.test]
    exact Recorded.bind_of_error h _
  rw [ofOperator, test_clause, hclause]
  rfl

end Condition

/-- Two evaluations at a cursor fail alike, or they end with opposite results: then the same answers
came before, and the last ones differ by their keys and by the results. -/
inductive Opposed (key other : String) (c : Cursor) (x y : Evaluation Bool) : Prop where
  | failed {e : Error} (hx : x.result = .error e) (hy : y.result = .error e)
      (hlog : answers y.log = answers x.log)
  | answered {holds : Bool} {before : List Answer} (hx : x.result = .ok holds)
      (hy : y.result = .ok (!holds))
      (hxlog : answers x.log = before ++ [⟨key, c.node.text, c.pathText, holds⟩])
      (hylog : answers y.log = before ++ [⟨other, c.node.text, c.pathText, !holds⟩])

theorem Operator.opposed_negated (op : Operator) (c : Cursor) :
    Opposed op.name op.negatedName c ((Condition.ofOperator op).test c)
      ((Condition.ofOperator (.negated op)).test c) := by
  have hnegated : ((negated op).test c).result = (op.test c).result.map (!·) :=
    result_negated op c
  have hlog : ((negated op).test c).log = (op.test c).log := by
    rw [Operator.test, Test.log_not]
  cases hresult : (op.test c).result with
  | error e =>
    rw [hresult] at hnegated
    have hx : ((Condition.ofOperator op).test c).result = .error e := by
      rw [Condition.result_ofOperator, hresult]
    have hy : ((Condition.ofOperator (.negated op)).test c).result = .error e := by
      rw [Condition.result_ofOperator, hnegated]
      rfl
    refine .failed hx hy ?_
    rw [Condition.answers_ofOperator_of_error hnegated,
      Condition.answers_ofOperator_of_error hresult, hlog]
  | ok holds =>
    rw [hresult] at hnegated
    have hx : ((Condition.ofOperator op).test c).result = .ok holds := by
      rw [Condition.result_ofOperator, hresult]
    have hy : ((Condition.ofOperator (.negated op)).test c).result = .ok (!holds) := by
      rw [Condition.result_ofOperator, hnegated]
      rfl
    refine .answered hx hy (Condition.answers_ofOperator hresult) ?_
    rw [Condition.answers_ofOperator hnegated, hlog]
    rfl

/-! ## Reading negated keys -/

/-- The keys of negated operators, each with the key of the sibling. -/
def Keyword.negations : List (String × String) :=
  [("$ne", "$eq"), ("$gte", "$lt"), ("$lte", "$gt"), ("$nin", "$in"), ("$nor", "$or"),
    ("$noneMatch", "$someMatch"), ("$containsNone", "$containsSome")]

theorem Keyword.ofKey?_negations {key other : String} (h : (other, key) ∈ negations) :
    ∃ form, ofKey? key = some ⟨form, false⟩ ∧ ofKey? other = some ⟨form, true⟩ := by
  simp only [negations, List.mem_cons, List.not_mem_nil, or_false, Prod.mk.injEq] at h
  rcases h with ⟨rfl, rfl⟩ | ⟨rfl, rfl⟩ | ⟨rfl, rfl⟩ | ⟨rfl, rfl⟩ | ⟨rfl, rfl⟩ | ⟨rfl, rfl⟩ | ⟨rfl, rfl⟩
  all_goals exact ⟨_, rfl, rfl⟩

/-- The negated keys are all listed. -/
theorem Keyword.exists_negations {other : String} {form : OperandForm}
    (h : ofKey? other = some ⟨form, true⟩) : ∃ key, (other, key) ∈ negations := by
  unfold ofKey? at h
  split at h <;> cases h
  all_goals simp [negations]

/-- The key of an operator has no part in how a list operand is read, but in how that fails. -/
theorem ListOperand.toOption_ofJson (operator operator' : String) (v : Json) :
    (ofJson operator v).toOption = (ofJson operator' v).toOption := by
  unfold ofJson
  cases Reference.detect v with
  | error e => rfl
  | ok r =>
    cases r with
    | some r => rfl
    | none => cases v <;> rfl

namespace Operator

variable [Pattern.Engine]

theorem ofMember_unbranched {key : String} {connective : Connective} {negated : Bool}
    (hkey : Keyword.ofKey? key = some ⟨.branches connective, negated⟩) {v : Json}
    (hv : ∀ elements, v ≠ .array elements) :
    ofMember ⟨key, v⟩ =
      ((Except.ok connective).map .unbranched).map (signed negated) := by
  unfold ofMember
  rw [hkey]
  cases v with
  | array elements => exact absurd rfl (hv elements)
  | _ => rfl

/-- Neither key is read, or an operator of the one key is, and its negation, which is of the other. -/
inductive ReadsNegated (key other : String) (v : Json) : Prop where
  | unread {e e' : Error} (hkey : ofMember ⟨key, v⟩ = .error e)
      (hother : ofMember ⟨other, v⟩ = .error e')
  | read {op : Operator} (hkey : ofMember ⟨key, v⟩ = .ok op)
      (hother : ofMember ⟨other, v⟩ = .ok (.negated op)) (hname : op.name = key)
      (hnegated : op.negatedName = other)

theorem ReadsNegated.of_map {key other : String} {v : Json} {β : Type} {x y : Except Error β}
    {make : β → Operator} (hx : ofMember ⟨key, v⟩ = (x.map make).map (signed false))
    (hy : ofMember ⟨other, v⟩ = (y.map make).map (signed true)) (hxy : y.toOption = x.toOption)
    (hname : ∀ b, x = .ok b → (make b).name = key ∧ (make b).negatedName = other) :
    ReadsNegated key other v := by
  cases x with
  | error e =>
    cases y with
    | error e' => exact .unread hx hy
    | ok b => cases hxy
  | ok b =>
    cases y with
    | error e' => cases hxy
    | ok b' =>
      cases hxy
      obtain ⟨hkey, hother⟩ := hname b rfl
      exact .read hx hy hkey hother

theorem readsNegated {key other : String} (h : (other, key) ∈ Keyword.negations) (v : Json) :
    ReadsNegated key other v := by
  simp only [Keyword.negations, List.mem_cons, List.not_mem_nil, or_false, Prod.mk.injEq] at h
  rcases h with ⟨rfl, rfl⟩ | ⟨rfl, rfl⟩ | ⟨rfl, rfl⟩ | ⟨rfl, rfl⟩ | ⟨rfl, rfl⟩ | ⟨rfl, rfl⟩ | ⟨rfl, rfl⟩
  · exact .of_map (ofMember_scalar rfl v) (ofMember_scalar rfl v) rfl fun _ _ => ⟨rfl, rfl⟩
  · exact .of_map (ofMember_scalar rfl v) (ofMember_scalar rfl v) rfl fun _ _ => ⟨rfl, rfl⟩
  · exact .of_map (ofMember_scalar rfl v) (ofMember_scalar rfl v) rfl fun _ _ => ⟨rfl, rfl⟩
  · exact .of_map (ofMember_list rfl rfl v) (ofMember_list rfl rfl v)
      (ListOperand.toOption_ofJson _ _ v) fun _ _ => ⟨rfl, rfl⟩
  · by_cases hv : ∃ elements, v = .array elements
    · obtain ⟨elements, rfl⟩ := hv
      exact .of_map (ofMember_branches rfl elements) (ofMember_branches rfl elements) rfl
        fun _ _ => ⟨rfl, rfl⟩
    · have hv : ∀ elements, v ≠ .array elements := fun elements h => hv ⟨elements, h⟩
      refine .of_map (ofMember_unbranched rfl hv) (ofMember_unbranched rfl hv) rfl ?_
      rintro _ ⟨⟩
      exact ⟨rfl, rfl⟩
  · exact .of_map (ofMember_condition rfl rfl v) (ofMember_condition rfl rfl v) rfl
      fun _ _ => ⟨rfl, rfl⟩
  · exact .of_map (ofMember_list rfl rfl v) (ofMember_list rfl rfl v)
      (ListOperand.toOption_ofJson _ _ v) fun _ _ => ⟨rfl, rfl⟩

end Operator

/-! ## Evaluations of keys -/

namespace Condition

section
variable [Pattern.Engine]

/-- The evaluation at a cursor of the condition that a value stands for. If the value does not stand for
a condition, nothing is on record but the error. -/
def evaluationAt (c : Cursor) (source : Json) : Evaluation Bool := do
  let condition ← Recorded.ofExcept (ofJson source)
  condition.test c

variable {source : Json}

theorem evaluationAt_of_ofJson {condition : Condition} (hread : ofJson source = .ok condition)
    (c : Cursor) : evaluationAt c source = condition.test c := by
  unfold evaluationAt
  rw [hread]
  rfl

theorem evaluationAt_of_ofJson_error {e : Error} (hread : ofJson source = .error e) (c : Cursor) :
    evaluationAt c source = ⟨[], .error e⟩ := by
  unfold evaluationAt
  rw [hread]
  rfl

theorem isMatch_eq_evaluationAt (v source : Json) :
    isMatch v source = evaluationAt (.root (.value v)) source :=
  rfl

section
variable {key other : String} (h : (other, key) ∈ Keyword.negations)
include h

theorem ofJson_negations (operand : Json) :
    ofJson (.single key operand) = (Operator.ofMember ⟨key, operand⟩).map ofOperator ∧
      ofJson (.single other operand) = (Operator.ofMember ⟨other, operand⟩).map ofOperator := by
  obtain ⟨form, hkey, hother⟩ := Keyword.ofKey?_negations h
  exact ⟨ofJson_operator hkey operand, ofJson_operator hother operand⟩

theorem succeeds_ofJson_negated_iff (operand : Json) :
    Succeeds (ofJson (.single other operand)) ↔ Succeeds (ofJson (.single key operand)) := by
  obtain ⟨hkey, hother⟩ := ofJson_negations h operand
  rw [hkey, hother, succeeds_map_iff, succeeds_map_iff]
  cases Operator.readsNegated h operand with
  | unread hread hread' =>
    rw [hread, hread']
    exact iff_of_false (not_succeeds_error _) (not_succeeds_error _)
  | read hread hread' =>
    rw [hread, hread']
    exact iff_of_true (succeeds_ok _) (succeeds_ok _)

theorem opposed_negated {operand : Json} (hparses : Succeeds (ofJson (.single key operand)))
    (c : Cursor) :
    Opposed key other c (evaluationAt c (.single key operand))
      (evaluationAt c (.single other operand)) := by
  obtain ⟨hkey, hother⟩ := ofJson_negations h operand
  cases Operator.readsNegated h operand with
  | unread hread hread' =>
    rw [hkey, hread] at hparses
    exact absurd hparses (not_succeeds_error _)
  | @read op hread hread' hname hnegated =>
    rw [hread] at hkey
    rw [hread'] at hother
    rw [evaluationAt_of_ofJson hkey, evaluationAt_of_ofJson hother, ← hname, ← hnegated]
    exact op.opposed_negated c

end

/-- A condition under `$not` fails as it does alone, or has the opposite result; the answers are the
same, and one more if there is a result. -/
inductive NegatedBy (c : Cursor) (x y : Evaluation Bool) : Prop where
  | failed {e : Error} (hx : x.result = .error e) (hy : y.result = .error e)
      (hlog : answers y.log = answers x.log)
  | answered {holds : Bool} (hx : x.result = .ok holds) (hy : y.result = .ok (!holds))
      (hlog : answers y.log = answers x.log ++ [⟨"$not", c.node.text, c.pathText, !holds⟩])

theorem negatedBy_not (c : Cursor) (source : Json) :
    NegatedBy c (evaluationAt c source) (evaluationAt c (.single "$not" source)) := by
  have hkey : Keyword.ofKey? "$not" = some ⟨.not, false⟩ := rfl
  have hnot := ofJson_operator hkey source
  rw [Operator.ofMember_condition hkey rfl] at hnot
  cases hread : ofJson source with
  | error e =>
    rw [hread] at hnot
    rw [evaluationAt_of_ofJson_error hread, evaluationAt_of_ofJson_error hnot]
    exact .failed rfl rfl rfl
  | ok condition =>
    rw [hread] at hnot
    rw [evaluationAt_of_ofJson hread, evaluationAt_of_ofJson hnot]
    have htest : (Operator.not condition).test c = condition.test.not c := by
      rw [Operator.test]
    have hlog : ((Operator.not condition).test c).log = (condition.test c).log := by
      rw [htest, Test.log_not]
    have hnegated : ((Operator.not condition).test c).result =
        (condition.test c).result.map (!·) := by
      rw [htest, Test.result_not]
    cases hresult : (condition.test c).result with
    | error e =>
      rw [hresult] at hnegated
      refine .failed hresult ((result_ofOperator _ c).trans hnegated) ?_
      exact (answers_ofOperator_of_error hnegated).trans (congrArg answers hlog)
    | ok holds =>
      rw [hresult] at hnegated
      refine .answered hresult ((result_ofOperator _ c).trans hnegated) ?_
      exact (answers_ofOperator hnegated).trans (by rw [hlog]; rfl)

/-- A negated key takes the operands of its sibling, and on each of them the two evaluations fail with
one error and one trace, or have opposite results and traces that differ in the key and the result of
the last answer. The trace under `$not` is the trace alone and the answer of the negation. -/
theorem record_negation :
    (∀ key other : String, (other, key) ∈ Keyword.negations → ∀ operand : Json,
      (Succeeds (ofJson (.single other operand)) ↔ Succeeds (ofJson (.single key operand))) ∧
      (Succeeds (ofJson (.single key operand)) → ∀ c : Cursor,
        Opposed key other c (evaluationAt c (.single key operand))
          (evaluationAt c (.single other operand)))) ∧
    ∀ (c : Cursor) (source : Json),
      NegatedBy c (evaluationAt c source) (evaluationAt c (.single "$not" source)) :=
  ⟨fun _ _ h operand => ⟨succeeds_ofJson_negated_iff h operand, opposed_negated h⟩, negatedBy_not⟩

end

section
attribute [local instance] Pattern.Engine.plain

/-- The second element is a string, so the search ends there, and both keys answer after it. -/
theorem record_negation_string :
    ("$noneMatch", "$someMatch") ∈ Keyword.negations ∧
    Succeeds (ofJson (.single "$someMatch" (.single "$type" (.string "string")))) ∧
    Succeeds (ofJson (.single "$noneMatch" (.single "$type" (.string "string")))) ∧
    Opposed "$someMatch" "$noneMatch" (.root (.value (.array [.null, .string "a", .null])))
      (evaluationAt (.root (.value (.array [.null, .string "a", .null])))
        (.single "$someMatch" (.single "$type" (.string "string"))))
      (evaluationAt (.root (.value (.array [.null, .string "a", .null])))
        (.single "$noneMatch" (.single "$type" (.string "string")))) ∧
    answers (evaluationAt (.root (.value (.array [.null, .string "a", .null])))
      (.single "$noneMatch" (.single "$type" (.string "string")))).log =
        [⟨"$type", "null", "0", false⟩, ⟨"$type", "\"a\"", "1", true⟩,
          ⟨"$noneMatch", "[null,\"a\",null]", "", false⟩] := by
  have hkeys : ("$noneMatch", "$someMatch") ∈ Keyword.negations := by decide
  have hread : Succeeds (ofJson (.single "$someMatch" (.single "$type" (.string "string")))) :=
    ⟨_, rfl⟩
  obtain ⟨hiff, hopposed⟩ := record_negation.1 _ _ hkeys (.single "$type" (.string "string"))
  exact ⟨hkeys, hread, hiff.mpr hread, hopposed hread _, rfl⟩

end

end Condition

end Sift
