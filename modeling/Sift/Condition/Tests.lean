import Sift.Condition.Basic
import Sift.Condition.Target
import Sift.Sequence.Basic
import Sift.Text.Lowercase

/-!
# Tests against operands, and views

How each family of operators without nested conditions tests the node at a cursor, and where the
views of the others lead. An operand is resolved only once the current node is of a kind that the
test can hold for; a list operand is resolved once there is a target.
-/

namespace Sift

def occursIn (text : List Char) : List Char → Bool
  | [] => text.isEmpty
  | c :: rest => text.isPrefixOf (c :: rest) || occursIn text rest

namespace ScalarTest

def testOrder (passes : Ordering → Bool) (operand : Operand) (c : Cursor) : Except Error Bool :=
  match c.node.value? with
  | none => .ok false
  | some v => (operand.resolve c).map fun other => other.value?.any fun w => v.ordered passes w

/-- Whether the current text and the operand pass, both being strings. -/
def testText (passes : String → String → Bool) (operand : Operand) (c : Cursor) :
    Except Error Bool :=
  match c.node.string? with
  | none => .ok false
  | some s => (operand.resolve c).map fun other => other.string?.any fun t => passes s t

def eval (operand : Operand) (c : Cursor) : ScalarTest → Except Error Bool
  | .equal => (operand.resolve c).map fun other => c.node.equal other
  | .greater => testOrder Ordering.isGT operand c
  | .less => testOrder Ordering.isLT operand c
  | .equalIgnoringCase => testText (fun s t => Text.lowercase s == Text.lowercase t) operand c
  | .contains => testText (fun s t => occursIn t.toList s.toList) operand c
  | .startsWith => testText (fun s t => t.toList.isPrefixOf s.toList) operand c
  | .endsWith => testText (fun s t => t.toList.isSuffixOf s.toList) operand c

end ScalarTest

/-- Whether the node at a cursor equals an item of a list operand. -/
def ListOperand.offers (operand : ListOperand) (c : Cursor) : Except Error Bool :=
  (operand.resolve c).map fun items => items.any fun item => c.node.equal item

namespace Containment

def isElement (v : Json) (item : Node) : Bool :=
  item.equal (.value v)

/-- Whether elements and items can be paired off. Each element takes the first item that equals it
and that no element before it took. -/
def pairsOff : List Json → List Node → Bool
  | [], _ => true
  | v :: rest, items => items.any (isElement v) && pairsOff rest (items.eraseP (isElement v))

def holds (elements : List Json) (items : List Node) : Containment → Bool
  | .all => items.all fun item => elements.any fun v => isElement v item
  | .same => elements.length == items.length && pairsOff elements items
  | .any => elements.any fun v => items.any (isElement v)

def eval (operand : ListOperand) (c : Cursor) (test : Containment) : Except Error Bool := do
  match ← c.node.target with
  | none => return false
  | some target =>
    let items ← operand.resolve c
    return test.holds target.values items

end Containment

def TypeTag.holds (tag : TypeTag) (node : Node) : Bool :=
  node.value?.any fun v => tag.admits v.kind

namespace View

/-- The cursor at the place that a view leads to, if there is such a place. -/
def cursor? (c : Cursor) : View → Except Error (Option Cursor)
  | .typed tag => .ok (if tag.holds c.node then some c else none)
  | .indexed =>
    match c.node with
    | .absent => .ok none
    | .value .null => .ok none
    | .value (.object members) => (c.derive "$indexAsArray" (.indexed members)).map some
    | node => .error (.notIterable (.noObject node))
  | .key =>
    match c.node with
    | .entry m => (c.derive "$key" (.value (.string m.key))).map some
    | _ => .ok none
  | .value =>
    match c.node with
    | .entry m => (c.derive "$value" (.value m.value)).map some
    | _ => .ok none
  | .character i =>
    match c.node.string? with
    | some s => if i < s.length then (c.element i).map some else .ok none
    | none => .ok none
  | .length =>
    match c.node.string? with
    | some s => (c.derive "length" (.value (.ofNat s.length))).map some
    | none => .ok none
  | .element i => do
    match ← c.node.target with
    | none => return none
    | some target =>
      match Sequence.elementAt target.steps i with
      | none => return none
      | some step => (c.stepTo step).map some
  | .size => do
    match ← c.node.target with
    | none => return none
    | some target => (c.derive "length" (.value (.ofNat target.size))).map some

end View

end Sift
