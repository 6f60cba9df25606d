import Sift.Proofs.Condition.Induction
import Sift.Proofs.Cursor.Subtree

/-!
# Where conditions are tested

A condition that is tested where something is looks further only at places where something is, and
only below: every event on the record (`Event.Under`) happens at the cursor of the test or at one
that it encloses. What fails on the way is one of the errors of tests (`Error.OfTest`).

A test that is confined in this way is `Test.Grounded`. Each way of building tests from tests keeps
that, as it steps to a place only after it has looked whether something is there.
-/

namespace Sift

def Event.cursor : Event → Cursor
  | .entered c => c
  | .answered _ c _ => c

/-- The event happened where something is, at a cursor or below. -/
def Event.Under (c : Cursor) (event : Event) : Prop :=
  event.cursor.isPresent = true ∧ c.Encloses event.cursor

/-- Run where something is, the test stays below and where something is. -/
def Test.Grounded (t : Test) : Prop :=
  ∀ c, c.isPresent = true → (t c).Confined (Event.Under c) Error.OfTest

/-! ## Operands -/

theorem Operand.failsOnly_resolve (operand : Operand) (c : Cursor) :
    FailsOnly Error.OfTest (operand.resolve c) := by
  cases operand with
  | literal v => exact .ok _
  | reference r => exact (c.failsOnly_resolve r.path).map _

theorem ListOperand.failsOnly_resolve (operand : ListOperand) (c : Cursor) :
    FailsOnly Error.OfTest (operand.resolve c) := by
  cases operand with
  | items operands => exact .mapM fun operand _ => operand.failsOnly_resolve c
  | reference r =>
    refine (c.failsOnly_resolve r.path).bind fun target _ => ?_
    split
    case h_4 => exact .error (.notIterable _)
    all_goals exact .ok _

theorem ScalarTest.failsOnly_eval (test : ScalarTest) (operand : Operand) (c : Cursor) :
    FailsOnly Error.OfTest (test.eval operand c) := by
  have hresolve := operand.failsOnly_resolve c
  have horder : ∀ passes, FailsOnly Error.OfTest (testOrder passes operand c) := by
    intro passes
    unfold testOrder
    split
    · exact .ok _
    · exact hresolve.map _
  have htext : ∀ passes, FailsOnly Error.OfTest (testText passes operand c) := by
    intro passes
    unfold testText
    split
    · exact .ok _
    · exact hresolve.map _
  cases test with
  | equal => exact hresolve.map _
  | greater => exact horder _
  | less => exact horder _
  | equalIgnoringCase => exact htext _
  | contains => exact htext _
  | startsWith => exact htext _
  | endsWith => exact htext _

theorem Containment.failsOnly_eval (test : Containment) (operand : ListOperand) (c : Cursor) :
    FailsOnly Error.OfTest (test.eval operand c) := by
  refine c.node.failsOnly_target.bind fun target _ => ?_
  split
  · exact .ok _
  · exact (operand.failsOnly_resolve c).bind fun _ _ => .ok _

/-! ## Ways of building tests -/

namespace Test.Grounded

variable {t : Test} {ts : List Test}

theorem below (ht : t.Grounded) {c d : Cursor} (hd : d.isPresent = true) (hcd : c.Encloses d) :
    (t d).Confined (Event.Under c) Error.OfTest :=
  (ht d hd).mono (fun _ hevent => ⟨hevent.1, hcd.trans hevent.2⟩) fun _ he => he

theorem ofExcept {f : Cursor → Except Error Bool} (hf : ∀ c, FailsOnly Error.OfTest (f c)) :
    (Test.ofExcept f).Grounded :=
  fun c _ => .ofExcept (hf c)

theorem not (ht : t.Grounded) : t.not.Grounded :=
  fun c hc => (ht c hc).bind fun result _ => .pure !result

theorem all (hts : ∀ t ∈ ts, t.Grounded) : (Test.all ts).Grounded :=
  fun c hc => .allMatch fun t ht _ => hts t ht c hc

theorem any (hts : ∀ t ∈ ts, t.Grounded) : (Test.any ts).Grounded :=
  fun c hc => .anyMatch fun t ht _ => hts t ht c hc

theorem combine (connective : Connective) (hts : ∀ t ∈ ts, t.Grounded) :
    (connective.combine ts).Grounded := by
  cases connective with
  | and => exact all hts
  | or => exact any hts

theorem quantified (quantifier : Quantifier) (ht : t.Grounded) : (quantifier.over t).Grounded := by
  intro c _
  refine (Recorded.Confined.ofExcept c.node.failsOnly_target).bind fun target htarget => ?_
  split
  next => exact .pure false
  next target =>
    have helement : ∀ step ∈ target.steps, ∀ _ : Nat, Recorded.Confined (Event.Under c)
        Error.OfTest ((Recorded.ofExcept (c.stepTo step) : Evaluation Cursor) >>= t) := by
      intro step hstep _
      obtain ⟨segment, node, hd, hnode⟩ := Cursor.stepTo_eq htarget hstep
      exact .bind_ok hd (ht.below hnode (.child .refl segment node))
    cases quantifier with
    | all => exact .allMatch helement
    | any => exact .anyMatch helement
    | one => exact .singleMatch helement

theorem thenTest (view : View) (ht : t.Grounded) : (view.thenTest t).Grounded := by
  intro c hc
  unfold View.thenTest
  have hleads := view.leads hc
  generalize view.cursor? c = place at hleads
  cases hleads with
  | nowhere => exact .bind_ok rfl (.pure false)
  | here => exact .bind_ok rfl (ht c hc)
  | child segment hnode => exact .bind_ok rfl (ht.below hnode (.child .refl segment _))
  | fails he => exact (Recorded.Confined.ofExcept (.error he)).bind fun _ h => nomatch h

/-- The test of a field runs where the field is, if it runs at all. -/
theorem ofField (expected : Option Bool) (ht : t.Grounded) {c d : Cursor} (hcd : c.Encloses d) :
    (Test.ofField expected t d).Confined (Event.Under c) Error.OfTest := by
  unfold Test.ofField
  split
  next expected present =>
    split
    next h => exact ht.below ((Bool.and_eq_true _ _ ▸ h).2) hcd
    next => exact .pure _
  next => exact ht.below ‹_› hcd
  next => exact .pure false

theorem atPath (path : String) (expected : Option Bool) (ht : t.Grounded) :
    (Test.atPath path (Test.ofField expected t)).Grounded := by
  intro c _
  unfold Test.atPath
  split
  · exact (Recorded.Confined.ofExcept (c.failsOnly_follow path)).bind fun d hd =>
      ht.ofField expected (.follow hd)
  · exact .ofExcept (.error (.notAnObject _))

theorem atName (name : String) (expected : Option Bool) (ht : t.Grounded) :
    (Test.atName name (Test.ofField expected t)).Grounded :=
  fun c _ => (Recorded.Confined.ofExcept (c.failsOnly_field name)).bind fun _ hd =>
    ht.ofField expected (.field hd)

theorem ofMembers (hts : ∀ t ∈ ts, t.Grounded) : (Test.ofMembers ts).Grounded := by
  intro c hc
  unfold Test.ofMembers
  split
  · exact all hts c hc
  · exact .ofExcept (.error (.notAnObject _))

end Test.Grounded

/-! ## Conditions -/

theorem Condition.grounded (condition : Condition) : condition.test.Grounded := by
  refine Condition.induction (P := fun condition => condition.test.Grounded)
    (Q := fun clause => clause.test.Grounded) (S := fun op => op.test.Grounded)
    ?equals ?clauses ?field ?operator ?branches ?unbranched ?not ?scalar ?isIn ?containment ?hasType
    ?present ?entries ?pattern ?within ?quantified ?negated condition
  case equals =>
    intro literal c hc
    exact (Recorded.Confined.note ⟨hc, .refl⟩).bind fun _ _ => .pure _
  case clauses =>
    intro all ih c hc
    rw [Condition.test, Clause.tests_eq_map]
    refine (Recorded.Confined.note ⟨hc, .refl⟩).bind fun _ _ => ?_
    exact Test.Grounded.all (List.forall_mem_map.mpr ih) c hc
  case field =>
    intro clause ih
    rw [Clause.test, FieldClause.test_eq]
    exact .atPath clause.name clause.expected ih
  case operator =>
    intro op ih c hc
    rw [Clause.test]
    refine (ih c hc).bind fun result _ => ?_
    exact (Recorded.Confined.note ⟨hc, .refl⟩).bind fun _ _ => .pure result
  case branches =>
    intro connective conditions ih
    rw [Operator.test, Condition.tests_eq_map]
    exact .combine connective (List.forall_mem_map.mpr ih)
  case unbranched => exact fun _ _ _ => .pure false
  case not => exact fun condition ih => ih.not
  case scalar => exact fun test operand => .ofExcept fun c => test.failsOnly_eval operand c
  case isIn =>
    exact fun operand => .ofExcept fun c => (operand.failsOnly_resolve c).map _
  case containment => exact fun test operand => .ofExcept fun c => test.failsOnly_eval operand c
  case hasType => exact fun tag c _ => .pure (tag.holds c.node)
  case present => exact fun _ _ _ => .pure true
  case entries =>
    intro clauses ih
    rw [Operator.test, FieldClause.memberTests_eq_map]
    refine .ofMembers (List.forall_mem_map.mpr fun clause hmem => ?_)
    rw [FieldClause.test_eq]
    exact .atName clause.name clause.expected (ih clause hmem)
  case pattern => exact fun expression c _ => .pure _
  case within => exact fun view condition ih => ih.thenTest view
  case quantified => exact fun quantifier condition ih => ih.quantified quantifier
  case negated => exact fun op ih => ih.not

end Sift
