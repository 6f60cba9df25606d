import Sift.Proofs.Condition.Literals
import Sift.Proofs.Json.NormalForm
import Sift.Proofs.Pattern.Plain

/-!
# Equality as a condition

`$eq` with a literal asks for `Json.equal`, whatever the value and the literal are. On well-formed
values that is equality of normal forms, hence reflexive, symmetric and transitive
(`Json.equal_iff_same_normalForm`).
-/

namespace Sift

/-- A value that is no reference is equal to another one as a condition if it is as a value. -/
theorem isMatch_equal [Pattern.Engine] (v : Json) {w : Json} (hw : w.get? Reference.key = none) :
    (isMatch v (.object [⟨"$eq", w⟩])).result = .ok (v.equal w) := by
  have hkey : Keyword.ofKey? "$eq" = some ⟨.scalar .equal, false⟩ := rfl
  rw [isMatch_eq_resultAt, Condition.resultAt_equal hkey hw, Bool.bne_false]
  rfl

/-- Equality of values is equality of normal forms, hence an equivalence, and what `$eq` asks
for. -/
theorem Json.equal_iff_same_normalForm [Pattern.Engine] {a b c : Json} (ha : a.WellFormed) (hb : b.WellFormed)
    (hc : c.WellFormed) :
    (a.equal b = true ↔ a.normalForm = b.normalForm) ∧ a.equal a = true ∧
      (a.equal b = true → b.equal a = true) ∧
      (a.equal b = true → b.equal c = true → a.equal c = true) ∧
      ∀ v w : Json, w.get? Reference.key = none →
        (isMatch v (.object [⟨"$eq", w⟩])).result = .ok (v.equal w) := by
  refine ⟨equal_iff ha hb, (equal_iff ha ha).mpr rfl, fun hab => ?_, fun hab hbc => ?_,
    fun v w hw => isMatch_equal v hw⟩
  · exact (equal_iff hb ha).mpr ((equal_iff ha hb).mp hab).symm
  · exact (equal_iff ha hc).mpr (((equal_iff ha hb).mp hab).trans ((equal_iff hb hc).mp hbc))

section
attribute [local instance] Pattern.Engine.plain

/-- The number two is equal to itself as an integer and as a binary64 number, below a key too. -/
theorem Json.equal_iff_same_normalForm_two :
    (object [⟨"n", number (.int 2)⟩]).WellFormed ∧
      (object [⟨"n", number (.float (.ofInt 2))⟩]).WellFormed ∧
      (object [⟨"n", number (.int 2)⟩]).equal (object [⟨"n", number (.float (.ofInt 2))⟩]) = true ∧
      (object [⟨"n", number (.float (.ofInt 2))⟩]).equal (object [⟨"n", number (.int 2)⟩]) = true ∧
      (isMatch .null (object [⟨"$eq", number (.int 2)⟩])).result = .ok false := by
  have hint : (object [⟨"n", number (.int 2)⟩]).WellFormed :=
    .object (List.pairwise_singleton _ _) (List.forall_mem_singleton.mpr (.number _))
  have hfloat : (object [⟨"n", number (.float (.ofInt 2))⟩]).WellFormed :=
    .object (List.pairwise_singleton _ _) (List.forall_mem_singleton.mpr (.number _))
  have hequal : (object [⟨"n", number (.int 2)⟩]).equal
      (object [⟨"n", number (.float (.ofInt 2))⟩]) = true := by
    decide +kernel
  obtain ⟨-, -, hsymm, -, hmatch⟩ := Json.equal_iff_same_normalForm hint hfloat hint
  exact ⟨hint, hfloat, hequal, hsymm hequal, hmatch .null (number (.int 2)) rfl⟩

end

end Sift
