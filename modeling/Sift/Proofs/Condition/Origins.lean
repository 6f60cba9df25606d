import Sift.Proofs.Condition.Faults
import Sift.Proofs.Condition.Grounding
import Sift.Proofs.Condition.Single
import Sift.Proofs.Cursor.Composition
import Sift.Proofs.Pattern.Plain

/-!
# Where the errors of a match come from

A match reads its condition and then tests the value. Reading does not see the value, and fails with
errors of reading only; testing fails with errors of tests only, at every cursor
(`Condition.failsOnly_test`): at one where something is by `Condition.grounded`, and at one where
nothing is because no operator goes any further from there. So the errors of reading are the same for
all values (`isMatch_reports_malformed`).
-/

namespace Sift

/-! ## Tests where nothing is -/

variable {c : Cursor}

theorem Cursor.target_of_absent (hc : c.isPresent = false) : c.node.target = .ok none := by
  rw [Cursor.node_eq_absent hc]
  rfl

theorem View.cursor?_of_absent (view : View) (hc : c.isPresent = false) :
    view.cursor? c = .ok none := by
  have hnode := Cursor.node_eq_absent hc
  have htarget := Cursor.target_of_absent hc
  cases view with
  | element i => simp only [cursor?, htarget]; rfl
  | size => simp only [cursor?, htarget]; rfl
  | typed tag => simp only [cursor?, hnode]; rfl
  | character i => simp only [cursor?, hnode]; rfl
  | length => simp only [cursor?, hnode]; rfl
  | indexed | key | value => simp only [cursor?, hnode]

/-- What all tests of a list keep, their combination keeps. -/
theorem Connective.confined_combine {P : Event → Prop} {Q : Error → Prop} {tests : List Test}
    (connective : Connective) (h : ∀ t ∈ tests, (t c).Confined P Q) :
    (connective.combine tests c).Confined P Q := by
  cases connective with
  | and => exact .allMatch fun t ht _ => h t ht
  | or => exact .anyMatch fun t ht _ => h t ht

namespace Condition

/-- A test where nothing is fails only with an error of tests. -/
theorem confined_of_absent (hc : c.isPresent = false) (condition : Condition) :
    (condition.test c).Confined (fun _ => True) Error.OfTest := by
  refine Condition.induction
    (P := fun condition => (condition.test c).Confined (fun _ => True) Error.OfTest)
    (Q := fun clause => (clause.test c).Confined (fun _ => True) Error.OfTest)
    (S := fun op => (op.test c).Confined (fun _ => True) Error.OfTest)
    ?equals ?clauses ?field ?operator ?branches ?unbranched ?not ?scalar ?isIn ?containment ?hasType
    ?present ?entries ?pattern ?within ?quantified ?negated condition
  case equals =>
    intro literal
    exact (Recorded.Confined.note trivial).bind fun _ _ => .pure _
  case clauses =>
    intro all ih
    rw [Condition.test, Clause.tests_eq_map]
    refine (Recorded.Confined.note trivial).bind fun _ _ => ?_
    exact Connective.and.confined_combine (List.forall_mem_map.mpr ih)
  case field =>
    -- the field of an absent node is absent in turn, but its condition is a grounded test anyway
    intro clause _
    rw [Clause.test, FieldClause.test_eq]
    unfold Test.atPath
    split
    · refine (Recorded.Confined.ofExcept (c.failsOnly_follow clause.name)).bind fun d _ => ?_
      have hfield := clause.condition.grounded.ofField clause.expected (.refl (c := d))
      exact hfield.mono (fun _ _ => trivial) fun _ he => he
    · exact .ofExcept (.error (.notAnObject _))
  case operator =>
    intro op ih
    rw [Clause.test]
    refine ih.bind fun result _ => ?_
    exact (Recorded.Confined.note trivial).bind fun _ _ => .pure result
  case branches =>
    intro connective conditions ih
    rw [Operator.test, Condition.tests_eq_map]
    exact connective.confined_combine (List.forall_mem_map.mpr ih)
  case unbranched => exact fun _ => .pure false
  case not => exact fun _ ih => ih.bind fun result _ => .pure !result
  case scalar => exact fun test operand => .ofExcept (test.failsOnly_eval operand c)
  case isIn => exact fun operand => .ofExcept ((operand.failsOnly_resolve c).map _)
  case containment => exact fun test operand => .ofExcept (test.failsOnly_eval operand c)
  case hasType => exact fun tag => .pure (tag.holds c.node)
  case present => exact fun _ => .pure true
  case entries =>
    intro clauses _
    rw [Operator.test]
    unfold Test.ofMembers
    split
    next members hnode =>
      rw [Cursor.isPresent, hnode] at hc
      cases hc
    next => exact .ofExcept (.error (.notAnObject _))
  case pattern => exact fun _ => .pure _
  case within =>
    intro view condition _
    exact .bind_ok (view.cursor?_of_absent hc) (.pure false)
  case quantified =>
    intro quantifier condition _
    exact .bind_ok (Cursor.target_of_absent hc) (.pure false)
  case negated => exact fun _ ih => ih.bind fun result _ => .pure !result

theorem failsOnly_test (condition : Condition) (c : Cursor) :
    FailsOnly Error.OfTest (condition.test c).result := by
  by_cases hc : c.isPresent = true
  · exact (condition.grounded c hc).failed
  · exact (condition.confined_of_absent (Bool.eq_false_iff.mpr hc)).failed

end Condition

/-! ## Matches -/

/-- The errors of reading that a match ends with are those of its condition. -/
theorem isMatch_eq_malformed_iff [Pattern.Engine] {e : Error} (he : e.OfReading) (v source : Json) :
    (isMatch v source).result = .error e ↔ Condition.ofJson source = .error e := by
  rw [result_isMatch]
  cases hread : Condition.ofJson source with
  | error _ =>
    constructor
    · rintro ⟨⟩
      rfl
    · rintro ⟨⟩
      rfl
  | ok condition =>
    refine ⟨fun hfail => ?_, nofun⟩
    have htest : e.OfTest := condition.failsOnly_test _ e hfail
    exact absurd htest he.not_ofTest

theorem failsOnly_isMatch [Pattern.Engine] (v source : Json) :
    FailsOnly (fun e => e.OfReading ∨ e.OfTest) (isMatch v source).result := by
  rw [result_isMatch]
  refine ((Condition.failsOnly_ofJson source).mono fun _ he => .inl he).bind fun condition _ => ?_
  exact (condition.failsOnly_test _).mono fun _ he => .inr he

/-- What is wrong with a condition is reported whatever value it is meant for: an error of reading
ends the match of one value exactly if it ends the match of any other. A condition that was read fails
only with errors of tests, wherever it is tested, and no match fails with an error of projections. -/
theorem isMatch_reports_malformed [Pattern.Engine] :
    (∀ source v w e, Error.OfReading e →
      ((isMatch v source).result = .error e ↔ (isMatch w source).result = .error e)) ∧
    (∀ source condition, Condition.ofJson source = .ok condition →
      ∀ c, FailsOnly Error.OfTest (condition.test c).result) ∧
    ∀ v source e, (isMatch v source).result = .error e → ¬e.OfProjection := by
  refine ⟨fun source v w e he => ?_, fun _ condition _ c => condition.failsOnly_test c,
    fun v source e hfail => ?_⟩
  · rw [isMatch_eq_malformed_iff he, isMatch_eq_malformed_iff he]
  · obtain hreading | htest := failsOnly_isMatch v source e hfail
    · exact hreading.not_ofProjection
    · exact htest.not_ofProjection

section
attribute [local instance] Pattern.Engine.plain

/-- The unknown operator below the field `a` is found for a string, which has no fields, as for an
object without that field. The path `^x` is no fault of its condition: it fails where it is followed,
which may be where nothing is. -/
theorem isMatch_reports_malformed_operator :
    (isMatch (.string "s") (.object [⟨"a", .object [⟨"$nope", .null⟩]⟩])).result =
      .error (.unknownOperator "$nope") ∧
    (isMatch (.object []) (.object [⟨"a", .object [⟨"$nope", .null⟩]⟩])).result =
      .error (.unknownOperator "$nope") ∧
    ¬(Error.unknownOperator "$nope").OfProjection ∧
    ((Condition.ofField "^x" (.equals .null)).test (.root .absent)).result =
      .error (.navigation (.notRelative "^x") "") ∧
    Error.OfTest (.navigation (.notRelative "^x") "") := by
  have hstring : (isMatch (.string "s") (.object [⟨"a", .object [⟨"$nope", .null⟩]⟩])).result =
      .error (.unknownOperator "$nope") := by
    rw [isMatch_eq_malformed_iff (.unknownOperator _)]
    rfl
  have hread : Condition.ofJson (.object [⟨"^x", .null⟩]) =
      .ok (Condition.ofField "^x" (.equals .null)) := rfl
  have htest : ((Condition.ofField "^x" (.equals .null)).test (.root .absent)).result =
      .error (.navigation (.notRelative "^x") "") := rfl
  obtain ⟨hreports, htests, hmatches⟩ := isMatch_reports_malformed
  exact ⟨hstring, (hreports _ _ (.object []) _ (.unknownOperator "$nope")).mp hstring,
    hmatches _ _ _ hstring, htest, htests _ _ hread _ _ htest⟩

end

end Sift
