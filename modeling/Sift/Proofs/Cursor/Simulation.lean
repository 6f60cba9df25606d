import Sift.Condition.Tests
import Sift.Proofs.Agreement

/-!
# Two runs side by side

A `Cursor.Simulation` relates the cursors of two runs that see the same nodes. It is kept by every
child that both runs step to, so every step down agrees: both runs arrive at related cursors, or
both fail, with errors that are related. What the runs may differ in is how they got to where they
are.
-/

namespace Sift

/-- Related cursors have one node and stay related at children, and an illegal step from them fails
with errors that are related. -/
structure Cursor.Simulation (E : Error → Error → Prop) (R : Cursor → Cursor → Prop) : Prop where
  refl : ∀ e, E e e
  node_eq : ∀ {c d}, R c d → c.node = d.node
  child : ∀ {c d}, R c d → ∀ segment node, R (.child c segment node) (.child d segment node)
  fault : ∀ {c d}, R c d → ∀ fault, E (.navigation fault c.pathText) (.navigation fault d.pathText)

namespace Cursor.Simulation

variable {E : Error → Error → Prop} {R : Cursor → Cursor → Prop} {c d : Cursor}

theorem isPresent_eq (h : Simulation E R) (hcd : R c d) : c.isPresent = d.isPresent := by
  unfold isPresent
  rw [h.node_eq hcd]

/-! ## Steps down -/

theorem field (h : Simulation E R) (hcd : R c d) (name : String) :
    Agree E R (c.field name) (d.field name) := by
  unfold Cursor.field
  rw [h.node_eq hcd]
  cases d.node.field? name with
  | some node => exact .ok (h.child hcd name node)
  | none => exact .error (h.fault hcd _)

theorem element (h : Simulation E R) (hcd : R c d) (i : Nat) :
    Agree E R (c.element i) (d.element i) := by
  unfold Cursor.element
  rw [h.isPresent_eq hcd, h.node_eq hcd]
  split
  · cases d.node.element? i with
    | some node => exact .ok (h.child hcd _ node)
    | none => exact .error (h.fault hcd _)
  · exact .ok (h.child hcd _ _)

theorem derive (h : Simulation E R) (hcd : R c d) (segment : String) (node : Node) :
    Agree E R (c.derive segment node) (d.derive segment node) := by
  unfold Cursor.derive
  rw [h.isPresent_eq hcd]
  split
  · exact .ok (h.child hcd segment node)
  · exact .error (h.fault hcd _)

theorem step (h : Simulation E R) (hcd : R c d) (segment : String) :
    Agree E R (c.step segment) (d.step segment) := by
  unfold Cursor.step
  rw [h.isPresent_eq hcd]
  split
  · exact h.field hcd segment
  · exact .ok (h.child hcd _ _)

theorem stepTo (h : Simulation E R) (hcd : R c d) (step : ElementStep) :
    Agree E R (c.stepTo step) (d.stepTo step) := by
  cases step with
  | index i => exact h.element hcd i
  | entry m => exact h.derive hcd _ _

/-! ## Paths -/

theorem descend (h : Simulation E R) (hcd : R c d) (segments : List String) :
    Agree E R (c.descend segments) (d.descend segments) := by
  unfold Cursor.descend
  induction segments generalizing c d with
  | nil => exact .ok hcd
  | cons segment rest ih =>
    rw [List.foldlM_cons, List.foldlM_cons]
    exact (h.step hcd segment).bind fun _ _ hcd' => ih hcd'

theorem descendPath (h : Simulation E R) (hcd : R c d) (path : String) :
    Agree E R (c.descendPath path) (d.descendPath path) := by
  unfold Cursor.descendPath
  cases Path.split path with
  | ok segments => exact h.descend hcd segments
  | error e => exact .error (h.refl _)

theorem follow (h : Simulation E R) (hcd : R c d) (path : String) :
    Agree E R (c.follow path) (d.follow path) := by
  unfold Cursor.follow
  split
  · exact .error (h.fault hcd _)
  · exact h.descendPath hcd path

/-! ## Views -/

theorem derive_some (h : Simulation E R) (hcd : R c d) (segment : String) (node : Node) :
    Agree E (Option.Rel R) ((c.derive segment node).map some) ((d.derive segment node).map some) :=
  (h.derive hcd segment node).map fun _ _ => .some

theorem cursor? (h : Simulation E R) (hcd : R c d) (view : View) :
    Agree E (Option.Rel R) (view.cursor? c) (view.cursor? d) := by
  have hnode := h.node_eq hcd
  cases view with
  | typed tag =>
    simp only [View.cursor?]
    rw [hnode]
    split
    · exact .ok (.some hcd)
    · exact .ok .none
  | indexed =>
    simp only [View.cursor?]
    rw [hnode]
    split
    · exact .ok .none
    · exact .ok .none
    · exact h.derive_some hcd _ _
    · exact .error (h.refl _)
  | key =>
    simp only [View.cursor?]
    rw [hnode]
    split
    · exact h.derive_some hcd _ _
    · exact .ok .none
  | value =>
    simp only [View.cursor?]
    rw [hnode]
    split
    · exact h.derive_some hcd _ _
    · exact .ok .none
  | character i =>
    simp only [View.cursor?]
    rw [hnode]
    split
    · split
      · exact (h.element hcd i).map fun _ _ => .some
      · exact .ok .none
    · exact .ok .none
  | length =>
    simp only [View.cursor?]
    rw [hnode]
    split
    · exact h.derive_some hcd _ _
    · exact .ok .none
  | element i =>
    simp only [View.cursor?]
    rw [hnode]
    refine (Agree.refl h.refl (fun _ => rfl) d.node.target).bind ?_
    rintro target _ rfl
    split
    · exact .ok .none
    · split
      · exact .ok .none
      · exact (h.stepTo hcd _).map fun _ _ => .some
  | size =>
    simp only [View.cursor?]
    rw [hnode]
    refine (Agree.refl h.refl (fun _ => rfl) d.node.target).bind ?_
    rintro target _ rfl
    split
    · exact .ok .none
    · exact h.derive_some hcd _ _

end Cursor.Simulation

end Sift
