import Sift.Error
import Sift.Path.Basic

/-!
# Cursors

A cursor is a node together with the way that led to it: the root of a tree, or a child of another
cursor under a segment. Its path, its depth and its root are read off that chain, so a cursor knows
all its ancestors and a step down never changes them.

Steps down: `field` by name, `follow` along a path, `element` by index, `derive` to any node.
`resolve` follows a reference, which may climb first: `^` starts at the root, and each `../` at the
next parent. Below an absent node everything is absent.
-/

namespace Sift

/-- A node, and how it was reached from the root of its tree. -/
inductive Cursor where
  | root (node : Node)
  | child (parent : Cursor) (segment : String) (node : Node)

namespace Cursor

def node : Cursor → Node
  | .root node => node
  | .child _ _ node => node

/-- The segments that lead from the root to here. -/
def path : Cursor → List String
  | .root _ => []
  | .child parent segment _ => parent.path ++ [segment]

def parent? : Cursor → Option Cursor
  | .root _ => none
  | .child parent _ _ => some parent

/-- The cursor that every step started from. -/
def top : Cursor → Cursor
  | .root node => .root node
  | .child parent _ _ => parent.top

/-- The number of ancestors. -/
def depth : Cursor → Nat
  | .root _ => 0
  | .child parent _ _ => parent.depth + 1

def isRoot : Cursor → Bool
  | .root _ => true
  | .child _ _ _ => false

/-- Whether anything is here: `false` exactly when a field or element is missing. -/
def isPresent (c : Cursor) : Bool :=
  c.node.isPresent

def pathText (c : Cursor) : String :=
  Path.join c.path

/-- The error of an illegal step from here. -/
def fail {α : Type} (c : Cursor) (fault : NavigationFault) : Except Error α :=
  .error (.navigation fault c.pathText)

/-! ## Steps down -/

/-- The index that a segment denotes in an array: decimal digits, after a plus sign or not. -/
def index? (segment : String) : Option Nat :=
  let digits := match segment.toList with
    | '+' :: rest => rest
    | cs => cs
  if !digits.isEmpty && digits.all Char.isDigit then
    some (digits.foldl (fun value c => value * 10 + (c.toNat - '0'.toNat)) 0)
  else none

end Cursor

namespace Node

/-- The node of a field; `none` for nodes that have no fields. Null and indexed nodes count as
objects without members. -/
def field? (name : String) : Node → Option Node
  | .indexed _ => some .absent
  | .value .null => some .absent
  | .value (.object members) => some (.ofOption (Member.lookup name members))
  | .value (.array elements) =>
    some (.ofOption ((Cursor.index? name).bind fun i => elements[i]?))
  | _ => none

/-- The node of an element of an array or a character of a string; `none` for other nodes. -/
def element? (i : Nat) : Node → Option Node
  | .value (.array elements) => some (.ofOption elements[i]?)
  | .value (.string s) => some (.ofOption (s.toList[i]?.map Json.ofChar))
  | _ => none

end Node

namespace Cursor

/-- Step to a field by its plain name. -/
def field (c : Cursor) (name : String) : Except Error Cursor :=
  match c.node.field? name with
  | some node => .ok (.child c name node)
  | none => c.fail (.noFields c.node)

/-- Step to the field of a key: a string, or an integer in decimal digits. -/
def fieldOfKey (c : Cursor) : Json → Except Error Cursor
  | .string name => c.field name
  | .number (.int n) => c.field (toString n)
  | key => c.fail (.unsupportedKey key)

def element (c : Cursor) (i : Nat) : Except Error Cursor :=
  if c.isPresent then
    match c.node.element? i with
    | some node => .ok (.child c (toString i) node)
    | none => c.fail (.noElements c.node)
  else .ok (.child c (toString i) .absent)

/-- Step to a node that is computed from this one. -/
def derive (c : Cursor) (segment : String) (node : Node) : Except Error Cursor :=
  if c.isPresent then .ok (.child c segment node) else c.fail .derivedFromAbsent

/-- Step to a field, or from an absent node to an absent one. -/
def step (c : Cursor) (segment : String) : Except Error Cursor :=
  if c.isPresent then c.field segment else .ok (.child c segment .absent)

def descend (c : Cursor) (segments : List String) : Except Error Cursor :=
  segments.foldlM step c

def descendPath (c : Cursor) (path : String) : Except Error Cursor :=
  match Path.split path with
  | .ok segments => c.descend segments
  | .error e => .error (.malformedPath e)

/-! ## Paths and references -/

/-- What follows `^`, if a path starts at the root. -/
def afterRoot? (path : String) : Option String :=
  match path.toList with
  | '^' :: rest => some (String.ofList rest)
  | _ => none

/-- What follows `../`, if a path starts at a parent. -/
def afterParent? (path : String) : Option String :=
  match path.toList with
  | '.' :: '.' :: '/' :: rest => some (String.ofList rest)
  | _ => none

def follow (c : Cursor) (path : String) : Except Error Cursor :=
  if (afterRoot? path).isSome || (afterParent? path).isSome then c.fail (.notRelative path)
  else c.descendPath path

def resolve (c : Cursor) (path : String) : Except Error Cursor :=
  match afterRoot? path with
  | some rest => c.top.descendPath rest
  | none =>
    match afterParent? path with
    | some rest =>
      match c with
      | .root _ => c.fail .noParent
      | .child parent _ _ => parent.resolve rest
    | none => c.descendPath path

end Cursor

end Sift
