import Sift.Proofs.Agreement
import Sift.Proofs.Condition.Grammar
import Sift.Proofs.Condition.Single
import Sift.Proofs.Cursor.Elements
import Sift.Proofs.Sequence.Deciding

/-!
# Quantifiers and connectives

A quantifier tests the elements of a target where the steps lead, and a connective tests conditions on
one node. As far as results go both are a `Quantifier.check`, of the elements (`Quantifier.result_over`)
or of the conditions (`Connective.result_branches`): a loop over a list that stops as the quantifier
says.
-/

namespace Sift

namespace Quantifier

variable {α : Type}

def check (test : α → Nat → Except Error Bool) (items : List α) : Quantifier → Except Error Bool
  | .all => Sequence.allMatch test items
  | .any => Sequence.anyMatch test items
  | .one => Sequence.singleMatch test items

theorem result_combine (test : α → Nat → Evaluation Bool) (items : List α)
    (quantifier : Quantifier) :
    (quantifier.combine test items).result =
      quantifier.check (fun a i => (test a i).result) items := by
  cases quantifier with
  | all => exact Sequence.result_allMatch test items
  | any => exact Sequence.result_anyMatch test items
  | one => exact Sequence.result_singleMatch test items

theorem check_agree {β : Type} {E : Error → Error → Prop} {f : α → Nat → Except Error Bool}
    {g : β → Nat → Except Error Bool} {as : List α} {bs : List β}
    (h : List.Forall₂ (fun a b => ∀ i, Agree E Eq (f a i) (g b i)) as bs)
    (quantifier : Quantifier) : Agree E Eq (quantifier.check f as) (quantifier.check g bs) := by
  cases quantifier with
  | all => exact Agree.allMatch h
  | any => exact Agree.anyMatch h
  | one => exact Agree.singleMatch h

theorem check_map {β : Type} (test : β → Nat → Except Error Bool) (f : α → β) (items : List α)
    (quantifier : Quantifier) :
    quantifier.check test (items.map f) = quantifier.check (fun a i => test (f a) i) items := by
  have hsame : List.Forall₂ (fun b a => ∀ i, Agree Eq Eq (test b i) (test (f a) i))
      (items.map f) items := by
    rw [List.forall₂_map_left_iff, List.forall₂_same]
    exact fun a _ i => .refl (fun _ => rfl) (fun _ => rfl) (test (f a) i)
  exact (check_agree hsame quantifier).eq

/-! ## Elements -/

variable {c : Cursor}

/-- A quantifier checks the elements of a target where the steps lead. -/
theorem result_over (quantifier : Quantifier) (test : Test) {target : Target}
    (htarget : c.node.target = .ok (some target)) :
    (quantifier.over test c).result =
      quantifier.check (fun step _ => c.stepTo step >>= fun d => (test d).result) target.steps := by
  unfold Quantifier.over
  rw [htarget, Recorded.result_bind]
  refine Eq.trans (result_combine _ _ quantifier) ?_
  congr 1
  funext step _
  rw [Recorded.result_bind]
  rfl

theorem result_over_error (quantifier : Quantifier) (test : Test) {e : Error}
    (h : c.node.target = .error e) : (quantifier.over test c).result = .error e := by
  unfold Quantifier.over
  rw [h]
  rfl

end Quantifier

theorem Node.isNullish_of_target {node : Node} (h : node.target = .ok none) :
    node.isNullish = true := by
  unfold Node.target at h
  split at h
  · rfl
  · rfl
  all_goals cases h

/-! ## Conditions on one node -/

namespace Connective

def quantifier : Connective → Quantifier
  | .and => .all
  | .or => .any

theorem result_combine (connective : Connective) (tests : List Test) (c : Cursor) :
    (connective.combine tests c).result =
      connective.quantifier.check (fun test _ => (test c).result) tests := by
  cases connective with
  | and => exact Sequence.result_allMatch _ tests
  | or => exact Sequence.result_anyMatch _ tests

theorem result_branches (connective : Connective) (conditions : List Condition) (c : Cursor) :
    ((Operator.branches connective conditions).test c).result =
      connective.quantifier.check (fun condition _ => (condition.test c).result) conditions := by
  rw [Operator.test, result_combine, Condition.tests_eq_map, Quantifier.check_map]

end Connective

namespace Condition

variable [Pattern.Engine]

/-- A connective checks the results of its conditions, if all of them can be read. -/
theorem resultAt_branches_of_succeeds {key : String} {connective : Connective} {negated : Bool}
    (hkey : Keyword.ofKey? key = some ⟨.branches connective, negated⟩) {sources : List Json}
    (hread : ∀ source ∈ sources, Succeeds (ofJson source)) (c : Cursor) :
    resultAt c (.single key (.array sources)) =
      (connective.quantifier.check (fun source _ => resultAt c source) sources).map
        (· != negated) := by
  obtain ⟨conditions, hconditions⟩ := succeeds_mapM_iff.mpr hread
  have hsame : List.Forall₂ (fun condition source =>
      ∀ _ : Nat, Agree Eq Eq (condition.test c).result (resultAt c source)) conditions sources := by
    refine (Except.mapM_eq_ok_iff.mp hconditions).flip.imp fun condition source h _ => ?_
    rw [resultAt_of_ofJson h]
    exact .refl (fun _ => rfl) (fun _ => rfl) _
  have hresult := Connective.result_branches connective conditions c
  rw [(Quantifier.check_agree hsame connective.quantifier).eq] at hresult
  rw [resultAt_branches hkey, hconditions, ← hresult]
  rfl

theorem succeeds_of_resultAt {c : Cursor} {source : Json} {b : Bool}
    (h : resultAt c source = .ok b) : Succeeds (ofJson source) := by
  obtain ⟨condition, hread, -⟩ := Except.bind_eq_ok.mp h
  exact ⟨condition, hread⟩

/-- If no condition fails, `$and` asks whether all of them hold. -/
theorem resultAt_and {c : Cursor} {items : List Json} {source : Json → Json} {holds : Json → Bool}
    (h : ∀ x ∈ items, resultAt c (source x) = .ok (holds x)) :
    resultAt c (.single "$and" (.array (items.map source))) = .ok (items.all holds) := by
  have hkey : Keyword.ofKey? "$and" = some ⟨.branches .and, false⟩ := rfl
  have hread : ∀ s ∈ items.map source, Succeeds (ofJson s) := by
    intro s hs
    obtain ⟨x, hx, rfl⟩ := List.mem_map.mp hs
    exact succeeds_of_resultAt (h x hx)
  have hall : Sequence.allMatch (fun x _ => resultAt c (source x)) items = .ok (items.all holds) :=
    Sequence.allMatch_eq_all fun x hx _ => h x hx
  rw [resultAt_branches_of_succeeds hkey hread, Quantifier.check_map]
  change Except.map _ (Sequence.allMatch _ items) = _
  rw [hall, Except.map_bne_false]

end Condition

/-! ## Conditions of one quantifier -/

namespace Condition

variable [Pattern.Engine] {key : String} {quantifier : Quantifier} {negated : Bool}
  {source : Json}
  {condition : Condition}

theorem resultAt_quantified (hkey : Keyword.ofKey? key = some ⟨.quantified quantifier, negated⟩)
    (hread : ofJson source = .ok condition) (c : Cursor) :
    resultAt c (.single key source) =
      (quantifier.over condition.test c).result.map (· != negated) := by
  rw [resultAt_condition hkey rfl, hread]
  rfl

theorem resultAt_within {key : String} {view : View}
    (hkey : Keyword.ofKey? key = some ⟨.within view, false⟩) {c place : Cursor}
    (hview : view.cursor? c = .ok (some place)) (source : Json) :
    resultAt c (.single key source) = resultAt place source := by
  rw [resultAt_condition hkey rfl, resultAt]
  congr 1
  funext condition
  change ((view.thenTest condition.test) c).result.map _ = _
  unfold View.thenTest
  rw [hview]
  exact Except.map_bne_false _

theorem resultAt_indexed {c : Cursor} {members : List Member}
    (hnode : c.node = .value (.object members)) (source : Json) :
    resultAt c (.single "$indexAsArray" source) =
      resultAt (.child c "$indexAsArray" (.indexed members)) source := by
  have hkey : Keyword.ofKey? "$indexAsArray" = some ⟨.within .indexed, false⟩ := rfl
  have hpresent : c.isPresent = true := by
    rw [Cursor.isPresent, hnode]
    rfl
  have hview : View.indexed.cursor? c =
      .ok (some (.child c "$indexAsArray" (.indexed members))) := by
    simp only [View.cursor?, hnode, Cursor.derive_eq hpresent]
    rfl
  exact resultAt_within hkey hview source

theorem resultAt_value {c : Cursor} {m : Member} (hnode : c.node = .entry m) (source : Json) :
    resultAt c (.single "$value" source) = resultAt (.child c "$value" (.value m.value)) source := by
  have hkey : Keyword.ofKey? "$value" = some ⟨.within .value, false⟩ := rfl
  have hpresent : c.isPresent = true := by
    rw [Cursor.isPresent, hnode]
    rfl
  have hview : View.value.cursor? c = .ok (some (.child c "$value" (.value m.value))) := by
    simp only [View.cursor?, hnode, Cursor.derive_eq hpresent]
    rfl
  exact resultAt_within hkey hview source

end Condition

end Sift
