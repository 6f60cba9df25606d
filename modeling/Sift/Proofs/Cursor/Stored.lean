import Sift.Cursor

/-!
# Cursors that store their answers

A cursor reads its path and its root off the chain of its parents, and looks at its node to tell
whether anything is there. A `Stored` cursor has these answers in fields. Each step copies the path of
the cursor that it leaves, hands its root on, and sets the flag of presence, so the answers are right
only as long as every step keeps them.

`Cursor.stored` is what a cursor is stored as. Every step from there ends as the step of the cursor
does: where that leads, as it is stored, or in the same error.
-/

namespace Sift

/-- A cursor with its answers in fields. A root has no parent, and stands for its own root. -/
structure Stored where
  node : Node
  path : List String
  present : Bool
  parent? : Option Stored
  root? : Option Stored

namespace Stored

/-! ## Steps -/

def start (node : Node) : Stored where
  node := node
  path := []
  present := node.isPresent
  parent? := none
  root? := none

def root (s : Stored) : Stored :=
  s.root?.getD s

def extend (s : Stored) (segment : String) (node : Node) (present : Bool) : Stored where
  node := node
  path := s.path ++ [segment]
  present := present
  parent? := some s
  root? := some s.root

def fail {α : Type} (s : Stored) (fault : NavigationFault) : Except Error α :=
  .error (.navigation fault (Path.join s.path))

def field (s : Stored) (name : String) : Except Error Stored :=
  match s.node.field? name with
  | some node => .ok (s.extend name node node.isPresent)
  | none => s.fail (.noFields s.node)

def fieldOfKey (s : Stored) : Json → Except Error Stored
  | .string name => s.field name
  | .number (.int n) => s.field (toString n)
  | key => s.fail (.unsupportedKey key)

def element (s : Stored) (i : Nat) : Except Error Stored :=
  if s.present then
    match s.node.element? i with
    | some node => .ok (s.extend (toString i) node node.isPresent)
    | none => s.fail (.noElements s.node)
  else .ok (s.extend (toString i) .absent false)

def derive (s : Stored) (segment : String) (node : Node) : Except Error Stored :=
  if s.present then .ok (s.extend segment node node.isPresent) else s.fail .derivedFromAbsent

def step (s : Stored) (segment : String) : Except Error Stored :=
  if s.present then s.field segment else .ok (s.extend segment .absent false)

def descend (s : Stored) (segments : List String) : Except Error Stored :=
  segments.foldlM step s

def descendPath (s : Stored) (path : String) : Except Error Stored :=
  match Path.split path with
  | .ok segments => s.descend segments
  | .error e => .error (.malformedPath e)

def follow (s : Stored) (path : String) : Except Error Stored :=
  if (Cursor.afterRoot? path).isSome || (Cursor.afterParent? path).isSome then
    s.fail (.notRelative path)
  else s.descendPath path

def resolve (s : Stored) (path : String) : Except Error Stored :=
  match Cursor.afterRoot? path with
  | some rest => s.root.descendPath rest
  | none =>
    match Cursor.afterParent? path with
    | some rest =>
      match s with
      | ⟨_, path, _, none, _⟩ => .error (.navigation .noParent (Path.join path))
      | ⟨_, _, _, some parent, _⟩ => parent.resolve rest
    | none => s.descendPath path

end Stored

namespace Cursor

variable {c : Cursor}

/-- The cursor with its answers stored on the way from the root. -/
def stored : Cursor → Stored
  | .root node => .start node
  | .child parent segment node => parent.stored.extend segment node node.isPresent

/-! ## What is stored -/

@[simp] theorem stored_node (c : Cursor) : c.stored.node = c.node := by
  cases c <;> rfl

@[simp] theorem stored_present (c : Cursor) : c.stored.present = c.isPresent := by
  cases c <;> rfl

@[simp] theorem stored_parent? (c : Cursor) : c.stored.parent? = c.parent?.map stored := by
  cases c <;> rfl

@[simp] theorem stored_path (c : Cursor) : c.stored.path = c.path := by
  induction c with
  | root node => rfl
  | child parent segment node ih =>
    change parent.stored.path ++ [segment] = parent.path ++ [segment]
    rw [ih]

@[simp] theorem stored_root (c : Cursor) : c.stored.root = c.top.stored := by
  induction c with
  | root node => rfl
  | child parent segment node ih => exact ih

/-! ## Steps of stored cursors -/

theorem stored_fail (c : Cursor) (fault : NavigationFault) :
    c.stored.fail fault = (c.fail fault).map stored := by
  unfold Stored.fail fail pathText
  rw [stored_path]
  rfl

theorem stored_field (c : Cursor) (name : String) :
    c.stored.field name = (c.field name).map stored := by
  unfold Stored.field field
  rw [stored_node]
  cases c.node.field? name with
  | some node => rfl
  | none => exact c.stored_fail _

theorem stored_fieldOfKey (c : Cursor) (key : Json) :
    c.stored.fieldOfKey key = (c.fieldOfKey key).map stored := by
  cases key with
  | string name => exact c.stored_field name
  | number n =>
    cases n with
    | int n => exact c.stored_field (toString n)
    | float d => exact c.stored_fail _
  | _ => exact c.stored_fail _

theorem stored_element (c : Cursor) (i : Nat) :
    c.stored.element i = (c.element i).map stored := by
  unfold Stored.element element
  rw [stored_present, stored_node]
  split
  · cases c.node.element? i with
    | some node => rfl
    | none => exact c.stored_fail _
  · rfl

theorem stored_derive (c : Cursor) (segment : String) (node : Node) :
    c.stored.derive segment node = (c.derive segment node).map stored := by
  unfold Stored.derive derive
  rw [stored_present]
  split
  · rfl
  · exact c.stored_fail _

theorem stored_step (c : Cursor) (segment : String) :
    c.stored.step segment = (c.step segment).map stored := by
  unfold Stored.step step
  rw [stored_present]
  split
  · exact c.stored_field segment
  · rfl

theorem stored_descend (c : Cursor) (segments : List String) :
    c.stored.descend segments = (c.descend segments).map stored := by
  unfold Stored.descend descend
  induction segments generalizing c with
  | nil => rfl
  | cons segment rest ih =>
    rw [List.foldlM_cons, List.foldlM_cons, stored_step]
    cases c.step segment with
    | ok next => exact ih next
    | error e => rfl

theorem stored_descendPath (c : Cursor) (path : String) :
    c.stored.descendPath path = (c.descendPath path).map stored := by
  unfold Stored.descendPath descendPath
  cases Path.split path with
  | ok segments => exact c.stored_descend segments
  | error e => rfl

theorem stored_follow (c : Cursor) (path : String) :
    c.stored.follow path = (c.follow path).map stored := by
  unfold Stored.follow follow
  split
  · exact c.stored_fail _
  · exact c.stored_descendPath path

theorem stored_resolve (c : Cursor) (path : String) :
    c.stored.resolve path = (c.resolve path).map stored := by
  -- a climb is a step to the stored parent, so the induction is on the way from the root
  induction c generalizing path with
  | root node =>
    unfold Stored.resolve resolve
    cases afterRoot? path with
    | some rest => exact stored_descendPath _ rest
    | none =>
      cases afterParent? path with
      | some rest => rfl
      | none => exact stored_descendPath _ path
  | child parent segment node ih =>
    unfold Stored.resolve resolve
    cases afterRoot? path with
    | some rest =>
      rw [stored_root]
      exact stored_descendPath _ rest
    | none =>
      cases afterParent? path with
      | some rest => exact ih rest
      | none => exact stored_descendPath _ path

end Cursor

end Sift
