import Sift.Proofs.Condition.References
import Sift.Proofs.Cursor.Resolution

/-!
# Conditions see their node only

A reference that climbs to the root or to a parent lets a condition look beyond its node. Without
such references the condition sees nothing but the node: from two cursors with one node, wherever
they are, it comes to one answer, or to one error. Only an illegal step says where it was tried.
-/

namespace Sift

/-- The errors are the same, except that an illegal step may have been tried elsewhere. -/
inductive Error.SameButPlace : Error → Error → Prop where
  | refl (e : Error) : SameButPlace e e
  | navigation (fault : NavigationFault) (path path' : String) :
      SameButPlace (.navigation fault path) (.navigation fault path')

theorem Cursor.simulation_node_eq :
    Cursor.Simulation Error.SameButPlace fun c d => c.node = d.node where
  refl := .refl
  node_eq h := h
  child _ _ _ := rfl
  fault _ fault := .navigation fault _ _

theorem Condition.agrees_of_isLocal (condition : Condition)
    (hlocal : ∀ r ∈ condition.references, r.IsLocal) :
    Test.Agrees Error.SameButPlace (fun c d => c.node = d.node) condition.test condition.test := by
  refine condition.agrees Cursor.simulation_node_eq fun r hr c d hcd => ?_
  rw [Cursor.resolve_of_isLocal (hlocal r hr), Cursor.resolve_of_isLocal (hlocal r hr)]
  exact Cursor.simulation_node_eq.descendPath hcd r.path

/-- A condition with local references gives one answer at all cursors with one node, or fails at all
of them with one error, but for the place of an illegal step. -/
theorem Condition.test_agrees_of_node_eq (condition : Condition)
    (hlocal : ∀ r ∈ condition.references, r.IsLocal) {c d : Cursor} (hnode : c.node = d.node) :
    Agree Error.SameButPlace Eq (condition.test c).result (condition.test d).result := by
  have hrefs : Reference.Agree Error.SameButPlace (fun c d => c.node = d.node)
      condition.references := by
    intro r hr c d hcd
    rw [Cursor.resolve_of_isLocal (hlocal r hr), Cursor.resolve_of_isLocal (hlocal r hr)]
    exact Cursor.simulation_node_eq.descendPath hcd r.path
  exact condition.agrees Cursor.simulation_node_eq hrefs c d hnode

/-- A number has no field `b`: both tests fail, the one below `x` at another place. -/
theorem Condition.test_agrees_elsewhere :
    (∀ r ∈ (ofField "a" (ofOperator (.scalar .greater (.reference ⟨"b"⟩)))).references,
        r.IsLocal) ∧
      ((ofField "a" (ofOperator (.scalar .greater (.reference ⟨"b"⟩)))).test
        (.root (.value (.object [⟨"a", .ofNat 1⟩])))).result =
          .error (.navigation (.noFields (.value (.ofNat 1))) "a") ∧
      Agree Error.SameButPlace Eq
        ((ofField "a" (ofOperator (.scalar .greater (.reference ⟨"b"⟩)))).test
          (.root (.value (.object [⟨"a", .ofNat 1⟩])))).result
        ((ofField "a" (ofOperator (.scalar .greater (.reference ⟨"b"⟩)))).test
          (.child (.root (.value .null)) "x" (.value (.object [⟨"a", .ofNat 1⟩])))).result :=
  ⟨by decide, rfl, Condition.test_agrees_of_node_eq _ (by decide) rfl⟩

end Sift
