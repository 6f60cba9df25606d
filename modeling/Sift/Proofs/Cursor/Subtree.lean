import Sift.Condition.Tests
import Sift.Proofs.Confinement
import Sift.Proofs.Cursor.Elements
import Sift.Proofs.Error

/-!
# Steps down

`c.Encloses d` says that `d` is `c` or was reached from it by steps down, so that its path goes on
where that of `c` ends (`Cursor.Encloses.path_prefix`). Fields and paths lead to such cursors. From
a cursor where something is, views (`View.leads`) and steps to elements (`Cursor.stepTo_eq`) lead to
places where something is, too: each of them looks before it steps.
-/

namespace Sift

namespace Cursor

/-- The other cursor is this one, or was reached from it by steps down. -/
inductive Encloses (c : Cursor) : Cursor → Prop where
  | refl : Encloses c c
  | child {d : Cursor} (h : Encloses c d) (segment : String) (node : Node) :
      Encloses c (.child d segment node)

variable {c d e : Cursor}

theorem Encloses.trans (hcd : c.Encloses d) (hde : d.Encloses e) : c.Encloses e := by
  induction hde with
  | refl => exact hcd
  | child _ segment node ih => exact ih.child segment node

theorem Encloses.path_prefix (h : c.Encloses d) : c.path <+: d.path := by
  induction h with
  | refl => exact List.prefix_refl _
  | child _ segment _ ih => exact ih.trans (List.prefix_append _ [segment])

/-! ## Fields and paths -/

theorem Encloses.field {name : String} (h : c.field name = .ok d) : c.Encloses d := by
  unfold Cursor.field at h
  split at h
  · cases h
    exact Encloses.refl.child name _
  · cases h

theorem Encloses.step {segment : String} (h : c.step segment = .ok d) : c.Encloses d := by
  unfold Cursor.step at h
  split at h
  · exact .field h
  · cases h
    exact Encloses.refl.child segment _

theorem Encloses.descend {segments : List String} (h : c.descend segments = .ok d) :
    c.Encloses d := by
  unfold Cursor.descend at h
  induction segments generalizing c with
  | nil =>
    cases h
    exact .refl
  | cons segment rest ih =>
    rw [List.foldlM_cons] at h
    obtain ⟨next, hnext, h⟩ := Except.bind_eq_ok.mp h
    exact (Encloses.step hnext).trans (ih h)

theorem Encloses.follow {path : String} (h : c.follow path = .ok d) : c.Encloses d := by
  unfold Cursor.follow at h
  split at h
  · cases h
  · unfold Cursor.descendPath at h
    split at h
    · exact .descend h
    · cases h

theorem failsOnly_field (c : Cursor) (name : String) : FailsOnly Error.OfTest (c.field name) := by
  unfold Cursor.field
  split
  · exact .ok _
  · exact .error (.noFields _ _)

theorem failsOnly_step (c : Cursor) (segment : String) :
    FailsOnly Error.OfTest (c.step segment) := by
  unfold Cursor.step
  split
  · exact c.failsOnly_field segment
  · exact .ok _

theorem failsOnly_descendPath (c : Cursor) (path : String) :
    FailsOnly Error.OfTest (c.descendPath path) := by
  unfold Cursor.descendPath
  split
  · exact .foldlM (fun d segment _ => d.failsOnly_step segment) c
  · exact .error (.malformedPath _)

theorem failsOnly_follow (c : Cursor) (path : String) :
    FailsOnly Error.OfTest (c.follow path) := by
  unfold Cursor.follow
  split
  · exact .error (.notRelative _ _)
  · exact c.failsOnly_descendPath path

theorem failsOnly_resolve (c : Cursor) (path : String) :
    FailsOnly Error.OfTest (c.resolve path) := by
  induction c generalizing path with
  | root node =>
    unfold Cursor.resolve
    split
    · exact failsOnly_descendPath _ _
    · split
      · exact .error (.noParent _)
      · exact failsOnly_descendPath _ _
  | child parent segment node ih =>
    unfold Cursor.resolve
    split
    · exact failsOnly_descendPath _ _
    · split
      · exact ih _
      · exact failsOnly_descendPath _ _

/-! ## Elements -/

theorem stepTo_eq {target : Target} (h : c.node.target = .ok (some target)) {step : ElementStep}
    (hstep : step ∈ target.steps) :
    ∃ segment node, c.stepTo step = .ok (.child c segment node) ∧ node.isPresent = true := by
  have hsteps := forall₂_stepTo h
  obtain ⟨i, hi, rfl⟩ := List.mem_iff_getElem.mp hstep
  have hi' : i < target.nodes.length := hsteps.length_eq ▸ hi
  obtain ⟨segment, hsegment⟩ := hsteps.get hi hi'
  exact ⟨segment, _, hsegment, Target.isPresent_of_mem_nodes (List.getElem_mem hi')⟩

end Cursor

/-! ## Views -/

/-- A view leads nowhere, to the cursor itself, or to a child where something is, or it is an error of
tests to ask for it. -/
inductive View.Leads (c : Cursor) : Except Error (Option Cursor) → Prop where
  | nowhere : Leads c (.ok none)
  | here : Leads c (.ok (some c))
  | child (segment : String) {node : Node} (h : node.isPresent = true) :
      Leads c (.ok (some (.child c segment node)))
  | fails {e : Error} (h : e.OfTest) : Leads c (.error e)

theorem Node.failsOnly_target (node : Node) : FailsOnly Error.OfTest node.target := by
  unfold target
  split
  case h_6 => exact .error (.notIterable _)
  all_goals exact .ok _

theorem Node.target_of_string? {node : Node} {s : String} (h : node.string? = some s) :
    node.target = .ok (some (.string s)) := by
  cases node with
  | value v =>
    cases v with
    | string t =>
      cases h
      rfl
    | _ => cases h
  | _ => cases h

namespace View

variable {c : Cursor}

theorem Leads.derive (hc : c.isPresent = true) (segment : String) {node : Node}
    (h : node.isPresent = true) : Leads c ((c.derive segment node).map some) := by
  rw [Cursor.derive_eq hc]
  exact .child segment h

/-- What a view of the elements does once the target is known. -/
theorem Leads.target (next : Target → Except Error (Option Cursor))
    (h : ∀ target, c.node.target = .ok (some target) → Leads c (next target)) :
    Leads c (c.node.target >>= fun target? =>
      match target? with
      | none => pure none
      | some target => next target) := by
  cases htarget : c.node.target with
  | error e => exact .fails (c.node.failsOnly_target e htarget)
  | ok target? =>
    cases target? with
    | none => exact .nowhere
    | some target => exact h target htarget

theorem leads (view : View) (hc : c.isPresent = true) : Leads c (view.cursor? c) := by
  cases view with
  | typed tag =>
    simp only [cursor?]
    split
    · exact .here
    · exact .nowhere
  | indexed =>
    simp only [cursor?]
    split
    · exact .nowhere
    · exact .nowhere
    · exact .derive hc _ rfl
    · exact .fails (.notIterable _)
  | key =>
    simp only [cursor?]
    split
    · exact .derive hc _ rfl
    · exact .nowhere
  | value =>
    simp only [cursor?]
    split
    · exact .derive hc _ rfl
    · exact .nowhere
  | character i =>
    simp only [cursor?]
    split
    next s hs =>
      split
      next hi =>
        have hmem : ElementStep.index i ∈ (Target.string s).steps :=
          List.mem_map_of_mem (List.mem_range.mpr hi)
        obtain ⟨segment, node, hstep, hnode⟩ :=
          Cursor.stepTo_eq (Node.target_of_string? hs) hmem
        rw [Cursor.stepTo] at hstep
        rw [hstep]
        exact .child segment hnode
      next => exact .nowhere
    next => exact .nowhere
  | length =>
    simp only [cursor?]
    split
    · exact .derive hc _ rfl
    · exact .nowhere
  | element i =>
    refine Leads.target _ fun target htarget => ?_
    split
    next => exact .nowhere
    next step hstep =>
      obtain ⟨segment, node, hstep, hnode⟩ :=
        Cursor.stepTo_eq htarget (List.mem_of_getElem? hstep)
      rw [hstep]
      exact .child segment hnode
  | size => exact Leads.target _ fun target _ => .derive hc _ rfl

end View

end Sift
