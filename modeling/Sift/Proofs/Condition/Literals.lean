import Sift.Proofs.Condition.Containment
import Sift.Proofs.Condition.Inlining
import Sift.Proofs.Condition.Single

/-!
# Operators on literals

With literals for operands an operator has nothing to resolve. A test against a literal or a list of
literals does not fail then, unless the current node is nothing that the operator can step through, and
its result is that of plain functions of the values: `Json.equal` and those built from it.
-/

namespace Sift.Condition

variable [Pattern.Engine] {key : String} {negated : Bool} {c : Cursor}

theorem resultAt_signed {form : OperandForm} {x : Json} {op : Operator} {holds : Bool}
    (hkey : Keyword.ofKey? key = some ⟨form, negated⟩)
    (hread : Operator.ofMember ⟨key, x⟩ = .ok (.signed negated op))
    (htest : (op.test c).result = .ok holds) :
    resultAt c (.single key x) = .ok (holds != negated) := by
  rw [resultAt_operator hkey, hread]
  change ((Operator.signed negated op).test c).result = _
  rw [Operator.result_signed, htest]
  rfl

theorem resultAt_scalar {test : ScalarTest} {w : Json} {holds : Bool}
    (hkey : Keyword.ofKey? key = some ⟨.scalar test, negated⟩)
    (hw : w.get? Reference.key = none) (heval : test.eval (.literal w) c = .ok holds) :
    resultAt c (.single key w) = .ok (holds != negated) := by
  have hread : Operator.ofMember ⟨key, w⟩ = .ok (.signed negated (.scalar test (.literal w))) := by
    rw [Operator.ofMember_scalar hkey, Operand.ofJson_literal hw]
    rfl
  exact resultAt_signed hkey hread heval

theorem resultAt_equal {w : Json} (hkey : Keyword.ofKey? key = some ⟨.scalar .equal, negated⟩)
    (hw : w.get? Reference.key = none) :
    resultAt c (.single key w) = .ok (c.node.equal (.value w) != negated) :=
  resultAt_scalar hkey hw rfl

section
variable {items : List Json} (hitems : ∀ x ∈ items, x.get? Reference.key = none)
include hitems

theorem ofMember_literals {form : OperandForm} {make : ListOperand → Operator}
    (hkey : Keyword.ofKey? key = some ⟨form, negated⟩) (hmake : form.ofList? = some make) :
    Operator.ofMember ⟨key, .array items⟩ =
      .ok (.signed negated (make (.items (items.map .literal)))) := by
  rw [Operator.ofMember_list hkey hmake, ListOperand.ofJson_literals key hitems]
  rfl

theorem resultAt_isIn (hkey : Keyword.ofKey? key = some ⟨.isIn, negated⟩) :
    resultAt c (.single key (.array items)) =
      .ok ((items.any fun x => c.node.equal (.value x)) != negated) := by
  have hoffers : (ListOperand.items (items.map .literal)).offers c =
      .ok (items.any fun x => c.node.equal (.value x)) := by
    rw [ListOperand.offers, ListOperand.resolve_literals]
    simp only [Except.map, List.any_map, Function.comp_def]
  exact resultAt_signed hkey (ofMember_literals hitems hkey rfl) hoffers

theorem resultAt_containment {test : Containment} {target : Target}
    (hkey : Keyword.ofKey? key = some ⟨.containment test, negated⟩)
    (htarget : c.node.target = .ok (some target)) :
    resultAt c (.single key (.array items)) =
      .ok (test.holds target.values (items.map .value) != negated) := by
  have heval : test.eval (.items (items.map .literal)) c =
      .ok (test.holds target.values (items.map .value)) :=
    Containment.eval_eq test htarget (ListOperand.resolve_literals c items)
  exact resultAt_signed hkey (ofMember_literals hitems hkey rfl) heval

end

end Sift.Condition
