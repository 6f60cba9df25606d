import Mathlib.Data.List.Basic
import Sift.Condition.Evaluation
import Sift.Proofs.Recorded

/-!
# Induction over conditions

Conditions, clauses and operators are made of lists of each other. `Condition.induction` gives a
hypothesis for each member of such a list; the hypothesis for a field clause is that of its
condition. The meanings of the lists are the lists of the meanings (`Condition.tests_eq_map` and its
siblings), so that the two fit. What is noted beside has no part in the results.
-/

namespace Sift

/-! ## Lists of tests -/

theorem Condition.tests_eq_map (conditions : List Condition) :
    Condition.tests conditions = conditions.map Condition.test := by
  induction conditions with
  | nil => rfl
  | cons condition rest ih => rw [Condition.tests, ih, List.map_cons]

theorem Clause.tests_eq_map (all : List Clause) : Clause.tests all = all.map Clause.test := by
  induction all with
  | nil => rfl
  | cons clause rest ih => rw [Clause.tests, ih, List.map_cons]

theorem FieldClause.memberTests_eq_map (clauses : List FieldClause) :
    FieldClause.memberTests clauses =
      clauses.map fun clause => Test.atName clause.name clause.test := by
  induction clauses with
  | nil => rfl
  | cons clause rest ih => rw [FieldClause.memberTests, ih, List.map_cons]

theorem FieldClause.test_eq (clause : FieldClause) :
    clause.test = Test.ofField clause.expected clause.condition.test := by
  cases clause
  rfl

/-! ## Results -/

theorem Condition.result_equals (literal : Json) (c : Cursor) :
    ((Condition.equals literal).test c).result = .ok (c.node.equal (.value literal)) := rfl

theorem Condition.result_clauses (all : List Clause) (c : Cursor) :
    ((Condition.clauses all).test c).result = (Test.all (all.map Clause.test) c).result := by
  rw [← Clause.tests_eq_map, Condition.test, Recorded.result_bind, Recorded.result_note]
  rfl

theorem Clause.result_operator (op : Operator) (c : Cursor) :
    ((Clause.operator op).test c).result = (op.test c).result := by
  rw [Clause.test, Recorded.result_bind]
  cases (op.test c).result with
  | ok result => rfl
  | error e => rfl

/-! ## Induction -/

/-- What holds of a condition, a clause and an operator as soon as it holds of their parts holds of
all of them. -/
theorem Condition.induction {P : Condition → Prop} {Q : Clause → Prop} {S : Operator → Prop}
    (equals : ∀ literal, P (.equals literal))
    (clauses : ∀ all, (∀ clause ∈ all, Q clause) → P (.clauses all))
    (field : ∀ clause : FieldClause, P clause.condition → Q (.field clause))
    (operator : ∀ op, S op → Q (.operator op))
    (branches : ∀ connective conditions, (∀ condition ∈ conditions, P condition) →
      S (.branches connective conditions))
    (unbranched : ∀ connective, S (.unbranched connective))
    (not : ∀ condition, P condition → S (.not condition))
    (scalar : ∀ test operand, S (.scalar test operand))
    (isIn : ∀ operand, S (.isIn operand))
    (containment : ∀ test operand, S (.containment test operand))
    (hasType : ∀ tag, S (.hasType tag))
    (present : ∀ expected, S (.present expected))
    (entries : ∀ clauses, (∀ clause ∈ clauses, P clause.condition) → S (.entries clauses))
    (pattern : ∀ expression, S (.pattern expression))
    (within : ∀ view condition, P condition → S (.within view condition))
    (quantified : ∀ quantifier condition, P condition → S (.quantified quantifier condition))
    (negated : ∀ op, S op → S (.negated op)) (condition : Condition) : P condition :=
  @Condition.rec P Q (fun clause => P clause.condition) S
    (fun all => ∀ clause ∈ all, Q clause)
    (fun conditions => ∀ condition ∈ conditions, P condition)
    (fun clauses => ∀ clause ∈ clauses, P clause.condition)
    equals clauses field operator (fun _ _ _ h => h) branches unbranched not scalar isIn containment
    hasType present entries pattern within quantified negated
    nofun (fun _ _ h hs => List.forall_mem_cons.mpr ⟨h, hs⟩)
    nofun (fun _ _ h hs => List.forall_mem_cons.mpr ⟨h, hs⟩)
    nofun (fun _ _ h hs => List.forall_mem_cons.mpr ⟨h, hs⟩)
    condition

end Sift
