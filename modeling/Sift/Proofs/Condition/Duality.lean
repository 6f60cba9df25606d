import Sift.Proofs.Condition.Literals
import Sift.Proofs.Condition.Quantifier
import Sift.Proofs.Pattern.Plain
import Sift.Proofs.Sequence.Deciding

/-!
# Duality

All of several conditions hold unless one of them fails to, and the same goes for one condition on
several elements. Here a test may also end with an error, so that the two sides must stop at one item
to end alike. They do (`Quantifier.Dual.check`), and as connectives and quantifiers are the same loop
over conditions and over elements, the laws of De Morgan follow for both (`Connective.result_dual`,
`Quantifier.Dual.result_over`). `Condition.resultAt_deMorgan` states them for the keys, errors
included.

The elements need a target: on null neither quantifier holds, and so the negation of either does.
-/

namespace Sift

/-! ## Quantifiers -/

namespace Quantifier

/-- One asks for all items, the other one for some. -/
inductive Dual : Quantifier → Quantifier → Prop where
  | all_any : Dual .all .any
  | any_all : Dual .any .all

variable {quantifier dual : Quantifier}

/-- The opposite of a test, for as many items as the dual says, is the opposite. -/
theorem Dual.check (h : Dual quantifier dual) {α : Type} (test : α → Nat → Except Error Bool)
    (items : List α) :
    dual.check (fun a i => (test a i).map (!·)) items = (quantifier.check test items).map (!·) := by
  cases h with
  | all_any => exact Sequence.anyMatch_not test items
  | any_all => exact Sequence.allMatch_not test items

/-- Where something is stepped through, or cannot be, a quantifier fails to hold as its dual holds of
the opposite test. -/
theorem Dual.result_over (h : Dual quantifier dual) {test opposite : Test}
    (htest : ∀ d, (opposite d).result = (test d).result.map (!·)) {c : Cursor}
    (hc : c.node.isNullish = false) :
    (dual.over opposite c).result = (quantifier.over test c).result.map (!·) := by
  cases htarget : c.node.target with
  | error e =>
    rw [result_over_error dual opposite htarget, result_over_error quantifier test htarget]
    rfl
  | ok target? =>
    cases target? with
    | none =>
      have hnullish := Node.isNullish_of_target htarget
      rw [hc] at hnullish
      cases hnullish
    | some target =>
      have hstep : ∀ step : ElementStep,
          (c.stepTo step >>= fun d => (opposite d).result) =
            (c.stepTo step >>= fun d => (test d).result).map (!·) := by
        intro step
        cases c.stepTo step with
        | error e => rfl
        | ok d => exact htest d
      rw [Quantifier.result_over dual opposite htarget,
        Quantifier.result_over quantifier test htarget]
      simp only [hstep]
      exact h.check _ target.steps

end Quantifier

/-! ## Connectives -/

namespace Condition

def negation (condition : Condition) : Condition :=
  ofOperator (.not condition)

theorem result_negation (condition : Condition) (c : Cursor) :
    (condition.negation.test c).result = (condition.test c).result.map (!·) := by
  rw [negation, result_ofOperator, Operator.test, Test.result_not]

end Condition

/-- The negations of conditions, under the dual connective, are the opposite. -/
theorem Connective.result_dual {connective dual : Connective}
    (h : Quantifier.Dual connective.quantifier dual.quantifier) (conditions : List Condition)
    (c : Cursor) :
    ((Operator.branches dual (conditions.map Condition.negation)).test c).result =
      ((Operator.branches connective conditions).test c).result.map (!·) := by
  rw [result_branches, result_branches, Quantifier.check_map]
  simp only [Condition.result_negation]
  exact h.check _ conditions

/-! ## Keys -/

namespace Condition

section
variable [Pattern.Engine] (c : Cursor)

theorem ofJson_not (source : Json) : ofJson (.single "$not" source) = (ofJson source).map negation := by
  have hkey : Keyword.ofKey? "$not" = some ⟨.not, false⟩ := rfl
  rw [ofJson_operator hkey, Operator.ofMember_condition hkey rfl]
  cases ofJson source <;> rfl

theorem mapM_ofJson_not (sources : List Json) :
    (sources.map (.single "$not")).mapM ofJson =
      (sources.mapM ofJson).map (List.map negation) := by
  induction sources with
  | nil => rfl
  | cons source rest ih =>
    rw [List.map_cons, List.mapM_cons, List.mapM_cons, ih, ofJson_not]
    cases ofJson source with
    | error e => rfl
    | ok condition =>
      cases rest.mapM ofJson with
      | error e => rfl
      | ok conditions => rfl

theorem resultAt_not (source : Json) :
    resultAt c (.single "$not" source) = (resultAt c source).map (!·) := by
  unfold resultAt
  rw [ofJson_not]
  cases ofJson source with
  | error e => rfl
  | ok condition => exact result_negation condition c

/-! ### Connectives -/

section
variable {key other : String} {connective dual : Connective}
  (hkey : Keyword.ofKey? key = some ⟨.branches connective, false⟩)
include hkey

theorem resultAt_branches_negated (hother : Keyword.ofKey? other = some ⟨.branches connective, true⟩)
    (sources : List Json) :
    resultAt c (.single other (.array sources)) =
      (resultAt c (.single key (.array sources))).map (!·) := by
  rw [resultAt_branches hkey, resultAt_branches hother]
  simp only [Except.map_bne_false, Bool.bne_true]
  cases sources.mapM ofJson <;> rfl

theorem resultAt_branches_dual (hother : Keyword.ofKey? other = some ⟨.branches dual, false⟩)
    (h : Quantifier.Dual connective.quantifier dual.quantifier) (sources : List Json) :
    resultAt c (.single other (.array (sources.map (.single "$not")))) =
      (resultAt c (.single key (.array sources))).map (!·) := by
  rw [resultAt_branches hkey, resultAt_branches hother, mapM_ofJson_not]
  simp only [Except.map_bne_false]
  cases sources.mapM ofJson with
  | error e => rfl
  | ok conditions => exact Connective.result_dual h conditions c

end

/-! ### Quantifiers -/

section
variable {key other : String} {quantifier dual : Quantifier}
  (hkey : Keyword.ofKey? key = some ⟨.quantified quantifier, false⟩)
include hkey

theorem resultAt_quantified_negated
    (hother : Keyword.ofKey? other = some ⟨.quantified quantifier, true⟩) (source : Json) :
    resultAt c (.single other source) = (resultAt c (.single key source)).map (!·) := by
  rw [resultAt_condition hkey rfl, resultAt_condition hother rfl]
  simp only [Except.map_bne_false, Bool.bne_true]
  cases ofJson source <;> rfl

theorem resultAt_quantified_dual (hother : Keyword.ofKey? other = some ⟨.quantified dual, false⟩)
    (h : Quantifier.Dual quantifier dual) (hc : c.node.isNullish = false) (source : Json) :
    resultAt c (.single other (.single "$not" source)) =
      (resultAt c (.single key source)).map (!·) := by
  rw [resultAt_condition hkey rfl, resultAt_condition hother rfl, ofJson_not]
  simp only [Except.map_bne_false]
  cases ofJson source with
  | error e => rfl
  | ok condition => exact h.result_over (fun d => result_negation condition d) hc

end

/-! ### The laws -/

/-- No item of a list of literals is equal to the node if it differs from each of them. -/
theorem resultAt_notIn {items : List Json} (hitems : ∀ x ∈ items, x.get? Reference.key = none) :
    resultAt c (.single "$nin" (.array items)) =
      resultAt c (.single "$and" (.array (items.map (.single "$ne")))) := by
  have hin : Keyword.ofKey? "$nin" = some ⟨.isIn, true⟩ := rfl
  have hne : Keyword.ofKey? "$ne" = some ⟨.scalar .equal, true⟩ := rfl
  have hdiffers : ∀ x ∈ items, resultAt c (.single "$ne" x) = .ok (!c.node.equal (.value x)) :=
    fun x hx => by rw [resultAt_equal hne (hitems x hx), Bool.bne_true]
  rw [resultAt_isIn hitems hin, resultAt_and hdiffers, Bool.bne_true, List.not_any_eq_all_not]

/-- The laws of De Morgan, errors included: for connectives and for `$nin` on every node, and for
quantifiers where there is something to step through, or something that cannot be. -/
theorem resultAt_deMorgan :
    (∀ sources : List Json,
      resultAt c (.single "$nor" (.array sources)) =
          resultAt c (.single "$and" (.array (sources.map (.single "$not")))) ∧
        resultAt c (.single "$not" (.single "$and" (.array sources))) =
          resultAt c (.single "$or" (.array (sources.map (.single "$not"))))) ∧
    (c.node.isNullish = false → ∀ source : Json,
      resultAt c (.single "$noneMatch" source) =
          resultAt c (.single "$allMatch" (.single "$not" source)) ∧
        resultAt c (.single "$not" (.single "$allMatch" source)) =
          resultAt c (.single "$someMatch" (.single "$not" source))) ∧
    ∀ items : List Json, (∀ x ∈ items, x.get? Reference.key = none) →
      resultAt c (.single "$nin" (.array items)) =
        resultAt c (.single "$and" (.array (items.map (.single "$ne")))) := by
  have hand : Keyword.ofKey? "$and" = some ⟨.branches .and, false⟩ := rfl
  have hor : Keyword.ofKey? "$or" = some ⟨.branches .or, false⟩ := rfl
  have hnor : Keyword.ofKey? "$nor" = some ⟨.branches .or, true⟩ := rfl
  have hall : Keyword.ofKey? "$allMatch" = some ⟨.quantified .all, false⟩ := rfl
  have hsome : Keyword.ofKey? "$someMatch" = some ⟨.quantified .any, false⟩ := rfl
  have hnone : Keyword.ofKey? "$noneMatch" = some ⟨.quantified .any, true⟩ := rfl
  refine ⟨fun sources => ⟨?_, ?_⟩, fun hc source => ⟨?_, ?_⟩, fun items => resultAt_notIn c⟩
  · rw [resultAt_branches_negated c hor hnor, resultAt_branches_dual c hor hand .any_all]
  · rw [resultAt_not, resultAt_branches_dual c hand hor .all_any]
  · rw [resultAt_quantified_negated c hsome hnone, resultAt_quantified_dual c hsome hall .any_all hc]
  · rw [resultAt_not, resultAt_quantified_dual c hall hsome .all_any hc]

end

section
attribute [local instance] Pattern.Engine.plain

/-- Of the two elements the second one has no elements of its own, and the first one settles nothing. So
both `$noneMatch` and its dual fail there. -/
theorem resultAt_deMorgan_fault :
    (Cursor.root (.value (.array [.array [.ofNat 1], .ofNat 3]))).node.isNullish = false ∧
    resultAt (.root (.value (.array [.array [.ofNat 1], .ofNat 3])))
        (.single "$allMatch" (.single "$not" (.single "$someMatch" (.ofNat 2)))) =
      .error (.notIterable (.noSequence (.value (.ofNat 3)))) ∧
    resultAt (.root (.value (.array [.array [.ofNat 1], .ofNat 3])))
        (.single "$and" (.array [.single "$ne" (.ofNat 1), .single "$ne" (.ofNat 3)])) =
      .ok true := by
  have hnode : (Cursor.root (.value (.array [.array [.ofNat 1], .ofNat 3]))).node.isNullish = false :=
    rfl
  have hfault : resultAt (.root (.value (.array [.array [.ofNat 1], .ofNat 3])))
      (.single "$noneMatch" (.single "$someMatch" (.ofNat 2))) =
      .error (.notIterable (.noSequence (.value (.ofNat 3)))) := rfl
  have hliterals : ∀ x ∈ [Json.ofNat 1, Json.ofNat 3], x.get? Reference.key = none := by
    intro x hx
    simp only [List.mem_cons, List.not_mem_nil, or_false] at hx
    rcases hx with rfl | rfl <;> rfl
  obtain ⟨-, hquantified, hnotIn⟩ :=
    resultAt_deMorgan (.root (.value (.array [.array [.ofNat 1], .ofNat 3])))
  refine ⟨hnode, ?_, ?_⟩
  · rw [← (hquantified hnode (.single "$someMatch" (.ofNat 2))).1, hfault]
  · exact (hnotIn [.ofNat 1, .ofNat 3] hliterals).symm

end

end Condition

end Sift
