import Sift.Condition.Evaluation
import Sift.Proofs.Cursor.Simulation
import Sift.Proofs.Recorded

/-!
# Tests that agree

Two tests agree, for a simulation of cursors, if they end alike at related cursors. Every way of
building tests from tests keeps agreement, since a simulation is kept by all the steps that lead to
the nested tests. Tests against operands agree as soon as the operands denote the same nodes.
-/

namespace Sift

variable {E : Error → Error → Prop} {R : Cursor → Cursor → Prop}

/-- At related cursors the two tests have results that agree. -/
def Test.Agrees (E : Error → Error → Prop) (R : Cursor → Cursor → Prop) (t t' : Test) : Prop :=
  ∀ c d, R c d → Agree E Eq (t c).result (t' d).result

def Operand.Agrees (E : Error → Error → Prop) (R : Cursor → Cursor → Prop)
    (o o' : Operand) : Prop :=
  ∀ c d, R c d → Agree E Eq (o.resolve c) (o'.resolve d)

def ListOperand.Agrees (E : Error → Error → Prop) (R : Cursor → Cursor → Prop)
    (o o' : ListOperand) : Prop :=
  ∀ c d, R c d → Agree E Eq (o.resolve c) (o'.resolve d)

theorem Test.forall₂_map {α β : Type} {f : α → Test} {g : β → Test} {as : List α} {bs : List β}
    (h : List.Forall₂ (fun a b => Test.Agrees E R (f a) (g b)) as bs) :
    List.Forall₂ (Test.Agrees E R) (as.map f) (bs.map g) := by
  rw [List.forall₂_map_left_iff, List.forall₂_map_right_iff]
  exact h

/-! ## Combinations of tests -/

namespace Test.Agrees

variable {t t' : Test} {ts ts' : List Test}

theorem ofNode (h : Cursor.Simulation E R) (f : Node → Bool) :
    Agrees E R (fun c => pure (f c.node)) (fun c => pure (f c.node)) := by
  intro c d hcd
  exact .ok (by rw [h.node_eq hcd])

theorem ofExcept {f g : Cursor → Except Error Bool}
    (hfg : ∀ c d, R c d → Agree E Eq (f c) (g d)) :
    Agrees E R (Test.ofExcept f) (Test.ofExcept g) := hfg

theorem not (ht : Agrees E R t t') : Agrees E R t.not t'.not := by
  intro c d hcd
  unfold Test.not
  rw [Recorded.result_bind, Recorded.result_bind]
  refine (ht c d hcd).bind ?_
  rintro result _ rfl
  exact .ok rfl

theorem all (hts : List.Forall₂ (Agrees E R) ts ts') : Agrees E R (Test.all ts) (Test.all ts') := by
  intro c d hcd
  unfold Test.all
  rw [Sequence.result_allMatch, Sequence.result_allMatch]
  exact Agree.allMatch (hts.imp fun _ _ ht _ => ht c d hcd)

theorem any (hts : List.Forall₂ (Agrees E R) ts ts') : Agrees E R (Test.any ts) (Test.any ts') := by
  intro c d hcd
  unfold Test.any
  rw [Sequence.result_anyMatch, Sequence.result_anyMatch]
  exact Agree.anyMatch (hts.imp fun _ _ ht _ => ht c d hcd)

theorem combine (connective : Connective) (hts : List.Forall₂ (Agrees E R) ts ts') :
    Agrees E R (connective.combine ts) (connective.combine ts') := by
  cases connective with
  | and => exact all hts
  | or => exact any hts

/-- A test that is run at a cursor reached by agreeing steps. -/
theorem at_step {x y : Except Error Cursor} (ht : Agrees E R t t') (hxy : Agree E R x y) :
    Agree E Eq ((Recorded.ofExcept x : Evaluation Cursor) >>= t).result
      ((Recorded.ofExcept y : Evaluation Cursor) >>= t').result := by
  rw [Recorded.result_bind, Recorded.result_bind]
  exact hxy.bind ht

theorem quantified (h : Cursor.Simulation E R) (quantifier : Quantifier) (ht : Agrees E R t t') :
    Agrees E R (quantifier.over t) (quantifier.over t') := by
  intro c d hcd
  unfold Quantifier.over
  rw [Recorded.result_bind, Recorded.result_bind, h.node_eq hcd]
  refine (Agree.refl h.refl (fun _ => rfl) d.node.target).bind ?_
  rintro target _ rfl
  cases target with
  | none => exact .ok rfl
  | some target =>
    -- both runs take the same steps to the elements, from related cursors
    have hsteps : List.Forall₂ (fun s s' => ∀ _ : Nat,
        Agree E Eq ((Recorded.ofExcept (c.stepTo s) : Evaluation Cursor) >>= t).result
          ((Recorded.ofExcept (d.stepTo s') : Evaluation Cursor) >>= t').result)
        target.steps target.steps :=
      List.forall₂_same.mpr fun s _ _ => ht.at_step (h.stepTo hcd s)
    cases quantifier with
    | all =>
      simp only [Quantifier.combine]
      rw [Sequence.result_allMatch, Sequence.result_allMatch]
      exact Agree.allMatch hsteps
    | any =>
      simp only [Quantifier.combine]
      rw [Sequence.result_anyMatch, Sequence.result_anyMatch]
      exact Agree.anyMatch hsteps
    | one =>
      simp only [Quantifier.combine]
      rw [Sequence.result_singleMatch, Sequence.result_singleMatch]
      exact Agree.singleMatch hsteps

theorem thenTest (h : Cursor.Simulation E R) (view : View) (ht : Agrees E R t t') :
    Agrees E R (view.thenTest t) (view.thenTest t') := by
  intro c d hcd
  unfold View.thenTest
  rw [Recorded.result_bind, Recorded.result_bind]
  refine (h.cursor? hcd view).bind fun place place' hplace => ?_
  cases hplace with
  | some hab => exact ht _ _ hab
  | none => exact .ok rfl

theorem ofField (h : Cursor.Simulation E R) (expected : Option Bool) (ht : Agrees E R t t') :
    Agrees E R (Test.ofField expected t) (Test.ofField expected t') := by
  intro c d hcd
  unfold Test.ofField
  rw [h.isPresent_eq hcd]
  split
  · split
    · exact ht c d hcd
    · exact .ok rfl
  · exact ht c d hcd
  · exact .ok rfl

theorem atPath (h : Cursor.Simulation E R) (path : String) (ht : Agrees E R t t') :
    Agrees E R (Test.atPath path t) (Test.atPath path t') := by
  intro c d hcd
  unfold Test.atPath
  rw [h.node_eq hcd]
  split
  · exact ht.at_step (h.follow hcd path)
  · exact .error (h.refl _)

theorem atName (h : Cursor.Simulation E R) (name : String) (ht : Agrees E R t t') :
    Agrees E R (Test.atName name t) (Test.atName name t') :=
  fun _ _ hcd => ht.at_step (h.field hcd name)

theorem ofMembers (h : Cursor.Simulation E R) (hts : List.Forall₂ (Agrees E R) ts ts') :
    Agrees E R (Test.ofMembers ts) (Test.ofMembers ts') := by
  intro c d hcd
  unfold Test.ofMembers
  rw [h.node_eq hcd]
  split
  · exact all hts c d hcd
  · exact .error (h.refl _)

end Test.Agrees

/-! ## Operands -/

namespace Operand.Agrees

variable {o o' : Operand}

theorem literal (v : Json) : Operand.Agrees E R (.literal v) (.literal v) :=
  fun _ _ _ => .ok rfl

theorem reference (h : Cursor.Simulation E R) {r : Reference}
    (hr : ∀ c d, R c d → Agree E R (c.resolve r.path) (d.resolve r.path)) :
    Operand.Agrees E R (.reference r) (.reference r) :=
  fun c d hcd => (hr c d hcd).map fun _ _ hab => h.node_eq hab

theorem scalar (h : Cursor.Simulation E R) (test : ScalarTest) (ho : Operand.Agrees E R o o') :
    Test.Agrees E R (Test.ofExcept fun c => test.eval o c)
      (Test.ofExcept fun c => test.eval o' c) := by
  refine .ofExcept fun c d hcd => ?_
  have hnode := h.node_eq hcd
  have horder : ∀ passes, Agree E Eq (ScalarTest.testOrder passes o c)
      (ScalarTest.testOrder passes o' d) := by
    intro passes
    unfold ScalarTest.testOrder
    rw [hnode]
    split
    · exact .ok rfl
    · exact (ho c d hcd).map fun a b hab => by rw [hab]
  have htext : ∀ passes, Agree E Eq (ScalarTest.testText passes o c)
      (ScalarTest.testText passes o' d) := by
    intro passes
    unfold ScalarTest.testText
    rw [hnode]
    split
    · exact .ok rfl
    · exact (ho c d hcd).map fun a b hab => by rw [hab]
  cases test with
  | equal =>
    simp only [ScalarTest.eval]
    rw [hnode]
    exact (ho c d hcd).map fun a b hab => by rw [hab]
  | greater => exact horder _
  | less => exact horder _
  | equalIgnoringCase => exact htext _
  | contains => exact htext _
  | startsWith => exact htext _
  | endsWith => exact htext _

end Operand.Agrees

namespace ListOperand.Agrees

variable {o o' : ListOperand}

theorem items {operands operands' : List Operand}
    (h : List.Forall₂ (Operand.Agrees E R) operands operands') :
    ListOperand.Agrees E R (.items operands) (.items operands') := by
  intro c d hcd
  have hlist := Agree.mapM (h.imp fun _ _ ho => ho c d hcd)
  rw [List.forall₂_eq_eq_eq] at hlist
  exact hlist

theorem reference (h : Cursor.Simulation E R) {r : Reference}
    (hr : ∀ c d, R c d → Agree E R (c.resolve r.path) (d.resolve r.path)) :
    ListOperand.Agrees E R (.reference r) (.reference r) := by
  intro c d hcd
  refine (hr c d hcd).bind fun a b hab => ?_
  rw [h.node_eq hab]
  exact .refl h.refl (fun _ => rfl) _

theorem isIn (h : Cursor.Simulation E R) (ho : ListOperand.Agrees E R o o') :
    Test.Agrees E R (Test.ofExcept fun c => o.offers c) (Test.ofExcept fun c => o'.offers c) := by
  refine .ofExcept fun c d hcd => ?_
  unfold ListOperand.offers
  rw [h.node_eq hcd]
  exact (ho c d hcd).map fun a b hab => by rw [hab]

theorem containment (h : Cursor.Simulation E R) (test : Containment)
    (ho : ListOperand.Agrees E R o o') :
    Test.Agrees E R (Test.ofExcept fun c => test.eval o c)
      (Test.ofExcept fun c => test.eval o' c) := by
  refine .ofExcept fun c d hcd => ?_
  unfold Containment.eval
  rw [h.node_eq hcd]
  refine (Agree.refl h.refl (fun _ => rfl) d.node.target).bind ?_
  rintro target _ rfl
  cases target with
  | none => exact .ok rfl
  | some target =>
    refine (ho c d hcd).bind ?_
    rintro nodes _ rfl
    exact .ok rfl

end ListOperand.Agrees

end Sift
