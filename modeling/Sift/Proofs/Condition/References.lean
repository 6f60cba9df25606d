import Sift.Proofs.Condition.Agreement
import Sift.Proofs.Condition.Induction

/-!
# References of conditions

`Condition.references` lists the references among the operands of a condition, at any depth. They
are all that a condition sees beyond the node at its cursor and what is below it: if the references
lead to related cursors in two runs, the condition agrees with itself (`Condition.agrees`).
-/

namespace Sift

/-! ## Listing references -/

def Operand.references : Operand → List Reference
  | .literal _ => []
  | .reference r => [r]

def ListOperand.references : ListOperand → List Reference
  | .items operands => operands.flatMap Operand.references
  | .reference r => [r]

mutual

/-- The references in a condition. -/
def Condition.references : Condition → List Reference
  | .equals _ => []
  | .clauses all => Clause.allReferences all

def Condition.allReferences : List Condition → List Reference
  | [] => []
  | condition :: rest => condition.references ++ Condition.allReferences rest

def Clause.references : Clause → List Reference
  | .field clause => clause.references
  | .operator op => op.references

def Clause.allReferences : List Clause → List Reference
  | [] => []
  | clause :: rest => clause.references ++ Clause.allReferences rest

def FieldClause.references : FieldClause → List Reference
  | ⟨_, _, condition⟩ => condition.references

def FieldClause.allReferences : List FieldClause → List Reference
  | [] => []
  | clause :: rest => clause.references ++ FieldClause.allReferences rest

def Operator.references : Operator → List Reference
  | .branches _ conditions => Condition.allReferences conditions
  | .unbranched _ => []
  | .not condition => condition.references
  | .scalar _ operand => operand.references
  | .isIn operand => operand.references
  | .containment _ operand => operand.references
  | .hasType _ => []
  | .present _ => []
  | .entries clauses => FieldClause.allReferences clauses
  | .pattern _ => []
  | .within _ condition => condition.references
  | .quantified _ condition => condition.references
  | .negated op => op.references

end

theorem Condition.allReferences_eq (conditions : List Condition) :
    Condition.allReferences conditions = conditions.flatMap Condition.references := by
  induction conditions with
  | nil => rfl
  | cons condition rest ih => rw [Condition.allReferences, ih, List.flatMap_cons]

theorem Clause.allReferences_eq (all : List Clause) :
    Clause.allReferences all = all.flatMap Clause.references := by
  induction all with
  | nil => rfl
  | cons clause rest ih => rw [Clause.allReferences, ih, List.flatMap_cons]

theorem FieldClause.references_eq (clause : FieldClause) :
    clause.references = clause.condition.references := by
  cases clause
  rfl

theorem FieldClause.allReferences_eq (clauses : List FieldClause) :
    FieldClause.allReferences clauses =
      clauses.flatMap fun clause => clause.condition.references := by
  induction clauses with
  | nil => rfl
  | cons clause rest ih =>
    rw [FieldClause.allReferences, ih, FieldClause.references_eq, List.flatMap_cons]

/-! ## Agreement -/

section
variable {E : Error → Error → Prop} {R : Cursor → Cursor → Prop}

/-- From related cursors the references lead to related cursors. -/
def Reference.Agree (E : Error → Error → Prop) (R : Cursor → Cursor → Prop)
    (references : List Reference) : Prop :=
  ∀ r ∈ references, ∀ c d, R c d → Sift.Agree E R (c.resolve r.path) (d.resolve r.path)

theorem Reference.Agree.of_flatMap {α : Type} {f : α → List Reference} {as : List α}
    (hr : Reference.Agree E R (as.flatMap f)) {a : α} (ha : a ∈ as) : Reference.Agree E R (f a) :=
  fun r hmem => hr r (List.mem_flatMap.mpr ⟨a, ha, hmem⟩)

theorem Operand.agrees (h : Cursor.Simulation E R) {operand : Operand}
    (hr : Reference.Agree E R operand.references) : Operand.Agrees E R operand operand := by
  cases operand with
  | literal v => exact .literal v
  | reference r => exact .reference h (hr r (List.mem_singleton_self r))

theorem ListOperand.agrees (h : Cursor.Simulation E R) {operand : ListOperand}
    (hr : Reference.Agree E R operand.references) : ListOperand.Agrees E R operand operand := by
  cases operand with
  | items operands =>
    exact .items (List.forall₂_same.mpr fun o ho => o.agrees h (hr.of_flatMap ho))
  | reference r => exact .reference h (hr r (List.mem_singleton_self r))

theorem Condition.agrees (h : Cursor.Simulation E R) (condition : Condition) :
    Reference.Agree E R condition.references → Test.Agrees E R condition.test condition.test := by
  refine Condition.induction
    (P := fun condition => Reference.Agree E R condition.references →
      Test.Agrees E R condition.test condition.test)
    (Q := fun clause => Reference.Agree E R clause.references →
      Test.Agrees E R clause.test clause.test)
    (S := fun op => Reference.Agree E R op.references → Test.Agrees E R op.test op.test)
    ?equals ?clauses ?field ?operator ?branches ?unbranched ?not ?scalar ?isIn ?containment ?hasType
    ?present ?entries ?pattern ?within ?quantified ?negated condition
  case equals =>
    intro literal _ c d hcd
    rw [Condition.result_equals, Condition.result_equals, h.node_eq hcd]
    exact .ok rfl
  case clauses =>
    intro all ih hr c d hcd
    rw [Condition.references, Clause.allReferences_eq] at hr
    rw [Condition.result_clauses, Condition.result_clauses]
    refine Test.Agrees.all (Test.forall₂_map ?_) c d hcd
    exact List.forall₂_same.mpr fun clause hmem => ih clause hmem (hr.of_flatMap hmem)
  case field =>
    intro clause ih hr
    rw [Clause.references, FieldClause.references_eq] at hr
    rw [Clause.test, FieldClause.test_eq]
    exact ((ih hr).ofField h clause.expected).atPath h clause.name
  case operator =>
    intro op ih hr c d hcd
    rw [Clause.result_operator, Clause.result_operator]
    exact ih hr c d hcd
  case branches =>
    intro connective conditions ih hr
    rw [Operator.references, Condition.allReferences_eq] at hr
    rw [Operator.test, Condition.tests_eq_map]
    refine .combine connective (Test.forall₂_map ?_)
    exact List.forall₂_same.mpr fun condition hmem => ih condition hmem (hr.of_flatMap hmem)
  case unbranched =>
    intro connective _
    exact .ofNode h fun _ => false
  case not =>
    intro condition ih hr
    exact (ih hr).not
  case scalar =>
    intro test operand hr
    exact (Operand.agrees h hr).scalar h test
  case isIn =>
    intro operand hr
    exact (ListOperand.agrees h hr).isIn h
  case containment =>
    intro test operand hr
    exact (ListOperand.agrees h hr).containment h test
  case hasType =>
    intro tag _
    exact .ofNode h tag.holds
  case present =>
    intro expected _
    exact .ofNode h fun _ => true
  case entries =>
    intro clauses ih hr
    rw [Operator.references, FieldClause.allReferences_eq] at hr
    rw [Operator.test, FieldClause.memberTests_eq_map]
    refine .ofMembers h (Test.forall₂_map (List.forall₂_same.mpr fun clause hmem => ?_))
    rw [FieldClause.test_eq]
    exact ((ih clause hmem (hr.of_flatMap hmem)).ofField h clause.expected).atName h clause.name
  case pattern =>
    intro expression _
    exact .ofNode h fun node => node.string?.any fun s => expression.isMatch s
  case within =>
    intro view condition ih hr
    exact (ih hr).thenTest h view
  case quantified =>
    intro quantifier condition ih hr
    exact (ih hr).quantified h quantifier
  case negated =>
    intro op ih hr
    exact (ih hr).not

end

end Sift
