import Sift.Cursor

/-!
# Targets of element operators

What the operators on elements step through: the elements of an array, the characters of a string,
or the members of an object that is viewed as a sequence. A target has two sequences of one length:
the bare values (`Target.values`), which containment tests compare, and the steps by which a cursor
reaches each element (`Target.steps`).
-/

namespace Sift

/-- What an element operator steps through. -/
inductive Target where
  | array (elements : List Json)
  | string (text : String)
  | object (members : List Member)

/-- A step to an element: to an index, or to a member as an entry. -/
inductive ElementStep where
  | index (i : Nat)
  | entry (m : Member)

namespace Target

def values : Target → List Json
  | .array elements => elements
  | .string text => text.toList.map Json.ofChar
  | .object members => members.map Member.value

def size : Target → Nat
  | .array elements => elements.length
  | .string text => text.length
  | .object members => members.length

def steps : Target → List ElementStep
  | .array elements => (List.range elements.length).map .index
  | .string text => (List.range text.length).map .index
  | .object members => members.map .entry

end Target

/-- The target that a node is. An absent or null node has none, and other nodes that are no
sequence are an error. -/
def Node.target : Node → Except Error (Option Target)
  | .absent => .ok none
  | .value .null => .ok none
  | .value (.array elements) => .ok (some (.array elements))
  | .value (.string text) => .ok (some (.string text))
  | .indexed members => .ok (some (.object members))
  | node => .error (.notIterable (.noSequence node))

def Cursor.stepTo (c : Cursor) : ElementStep → Except Error Cursor
  | .index i => c.element i
  | .entry m => c.derive m.key (.entry m)

end Sift
