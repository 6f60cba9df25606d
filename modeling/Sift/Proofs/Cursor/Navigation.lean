import Sift.Reference

/-!
# What navigation keeps

`Move` is a step of navigation that succeeds, down or up. It is made of few parts: the step to a field
or to an element, the step from an absent node to an absent one, and the climb to a parent. A property
of cursors that these keep is `Kept`, and holds after every move from a cursor that has it
(`Kept.move`).
-/

namespace Sift.Cursor

inductive Move : Cursor → Cursor → Prop where
  | field {c d : Cursor} (name : String) (h : c.field name = .ok d) : Move c d
  | fieldOfKey {c d : Cursor} (key : Json) (h : c.fieldOfKey key = .ok d) : Move c d
  | follow {c d : Cursor} (path : String) (h : c.follow path = .ok d) : Move c d
  | element {c d : Cursor} (i : Nat) (h : c.element i = .ok d) : Move c d
  | resolve {c d : Cursor} (r : Reference) (h : c.resolve r.path = .ok d) : Move c d
  | parent {c d : Cursor} (h : c.parent? = some d) : Move c d
  | top (c : Cursor) : Move c c.top

/-- The property passes to fields and elements, to what is below an absent node, and to parents. -/
structure Kept (P : Cursor → Prop) : Prop where
  atField : ∀ {c : Cursor} {name : String} {node : Node}, P c → c.node.field? name = some node →
    P (.child c name node)
  atElement : ∀ {c : Cursor} {i : Nat} {node : Node}, P c → c.node.element? i = some node →
    P (.child c (toString i) node)
  belowAbsent : ∀ {c : Cursor} (segment : String), P c → c.isPresent = false →
    P (.child c segment .absent)
  atParent : ∀ {parent : Cursor} {segment : String} {node : Node},
    P (.child parent segment node) → P parent

namespace Kept

variable {P : Cursor → Prop} {c d : Cursor}

theorem field (h : Kept P) (hc : P c) {name : String} (hd : c.field name = .ok d) : P d := by
  unfold Cursor.field at hd
  split at hd
  next node hnode =>
    cases hd
    exact h.atField hc hnode
  next => cases hd

theorem fieldOfKey (h : Kept P) (hc : P c) {key : Json} (hd : c.fieldOfKey key = .ok d) :
    P d := by
  unfold Cursor.fieldOfKey at hd
  split at hd
  · exact h.field hc hd
  · exact h.field hc hd
  · cases hd

theorem element (h : Kept P) (hc : P c) {i : Nat} (hd : c.element i = .ok d) : P d := by
  unfold Cursor.element at hd
  split at hd
  · split at hd
    next node hnode =>
      cases hd
      exact h.atElement hc hnode
    next => cases hd
  next habsent =>
    cases hd
    exact h.belowAbsent (toString i) hc (eq_false_of_ne_true habsent)

theorem step (h : Kept P) (hc : P c) {segment : String} (hd : c.step segment = .ok d) : P d := by
  unfold Cursor.step at hd
  split at hd
  · exact h.field hc hd
  next habsent =>
    cases hd
    exact h.belowAbsent segment hc (eq_false_of_ne_true habsent)

theorem descend (h : Kept P) (hc : P c) {segments : List String}
    (hd : c.descend segments = .ok d) : P d := by
  unfold Cursor.descend at hd
  induction segments generalizing c with
  | nil =>
    cases hd
    exact hc
  | cons segment rest ih =>
    rw [List.foldlM_cons] at hd
    cases hstep : c.step segment with
    | ok next =>
      rw [hstep] at hd
      exact ih (h.step hc hstep) hd
    | error e =>
      rw [hstep] at hd
      cases hd

theorem descendPath (h : Kept P) (hc : P c) {path : String} (hd : c.descendPath path = .ok d) :
    P d := by
  unfold Cursor.descendPath at hd
  split at hd
  · exact h.descend hc hd
  · cases hd

theorem follow (h : Kept P) (hc : P c) {path : String} (hd : c.follow path = .ok d) : P d := by
  unfold Cursor.follow at hd
  split at hd
  · cases hd
  · exact h.descendPath hc hd

theorem parent (h : Kept P) (hc : P c) (hd : c.parent? = some d) : P d := by
  cases c with
  | root node => cases hd
  | child parent segment node =>
    cases hd
    exact h.atParent hc

theorem top (h : Kept P) (hc : P c) : P c.top := by
  induction c with
  | root node => exact hc
  | child parent segment node ih => exact ih (h.atParent hc)

theorem resolve (h : Kept P) (hc : P c) {path : String} (hd : c.resolve path = .ok d) : P d := by
  -- a climb leaves the cursor for its parent, so the induction is on the way from the root
  induction c generalizing path with
  | root node =>
    unfold Cursor.resolve at hd
    split at hd
    · exact h.descendPath (h.top hc) hd
    · split at hd
      · cases hd
      · exact h.descendPath hc hd
  | child parent segment node ih =>
    unfold Cursor.resolve at hd
    split at hd
    · exact h.descendPath (h.top hc) hd
    · split at hd
      · exact ih (h.atParent hc) hd
      · exact h.descendPath hc hd

theorem move (h : Kept P) (hc : P c) (hmove : Move c d) : P d := by
  cases hmove with
  | field _ hd => exact h.field hc hd
  | fieldOfKey _ hd => exact h.fieldOfKey hc hd
  | follow _ hd => exact h.follow hc hd
  | element _ hd => exact h.element hc hd
  | resolve _ hd => exact h.resolve hc hd
  | parent hd => exact h.parent hc hd
  | top => exact h.top hc

end Kept

end Sift.Cursor
