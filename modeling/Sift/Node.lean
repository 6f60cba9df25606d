import Sift.Json.Order
import Sift.Json.Text

/-!
# Nodes

What a cursor points at: a value, the place of a value that is not there, a member taken as a pair
of key and value, or an object viewed as the sequence of its members. `Node.toJson?` is the value
that a node stands for in comparisons, and `Node.text` its rendering in messages and records.
-/

namespace Sift

/-- What a cursor points at. -/
inductive Node where
  /-- Nothing: the field or element is not there. -/
  | absent
  | value (v : Json)
  /-- A member of an object, as a pair of key and value. -/
  | entry (m : Member)
  /-- An object, as the sequence of its members. -/
  | indexed (members : List Member)
  deriving Inhabited

namespace Node

/-- The node of a value that may be missing. -/
def ofOption : Option Json → Node
  | none => .absent
  | some v => .value v

def isPresent : Node → Bool
  | .absent => false
  | _ => true

def value? : Node → Option Json
  | .value v => some v
  | _ => none

def string? (node : Node) : Option String :=
  node.value?.bind Json.string?

def isNullish : Node → Bool
  | .absent => true
  | .value v => v.isNull
  | _ => false

/-- Whether the node is an object or an array. -/
def isObjectShaped : Node → Bool
  | .value (.object _) => true
  | .value (.array _) => true
  | _ => false

/-- Whether the node is an object viewed as a sequence. -/
def isIndexed : Node → Bool
  | .indexed _ => true
  | _ => false

/-- Whether a field clause may look into the node. Those without fields of their own qualify too:
all fields of a nullish or indexed node are absent. -/
def acceptsFields (node : Node) : Bool :=
  node.isObjectShaped || node.isNullish || node.isIndexed

/-- The value that a node stands for in comparisons. -/
def toJson? : Node → Option Json
  | .absent => none
  | .value v => some v
  | .entry m => some m.toJson
  | .indexed members => some (.object members)

/-- Equality of nodes, as of the values they stand for. An absent node equals an absent one only. -/
def equal (a b : Node) : Bool :=
  match a.toJson?, b.toJson? with
  | none, none => true
  | some v, some w => v.equal w
  | _, _ => false

def text : Node → String
  | .absent => "undefined"
  | .value v => v.text
  | .entry m => m.toJson.text
  | .indexed members => "$indexAsArray(" ++ toString members.length ++ " entries)"

end Node

end Sift
