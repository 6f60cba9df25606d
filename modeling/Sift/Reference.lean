import Sift.Cursor
import Sift.Text.Hidden

/-!
# References and operands

An operand is a literal value, or a reference to another place of the tree that is being matched:
an object whose key `$field` holds a path. A reference is resolved from the cursor where it is met.
A list operand is an array of operands, or one reference to an array.
-/

namespace Sift

/-- A path to another place of the tree. Nothing is checked until it is resolved. -/
structure Reference where
  path : String
  deriving DecidableEq, Repr

namespace Reference

def key : String := "$field"

def toJson (r : Reference) : Json :=
  .object [⟨key, .string r.path⟩]

/-- The reference that an operand is meant to be, if it is: its path must be a string with at least
one character. -/
def detect (operand : Json) : Except Error (Option Reference) :=
  match operand.get? key with
  | none => .ok none
  | some (.string path) =>
    if path.isEmpty then .error (.invalidOperand (.reference (.string path)))
    else .ok (some ⟨path⟩)
  | some found => .error (.invalidOperand (.reference found))

/-- The reference that a value encodes: the path under its key, or as the only element of an
array. -/
def ofJson? (v : Json) : Option Reference :=
  match v with
  | .array [.string path] => some ⟨path⟩
  | _ => (v.get? key).bind fun path => path.string?.map Reference.mk

/-- A character of a path as it is shown: quotes, backslashes and characters that would not show
are escaped. -/
def shownChar (c : Char) : String :=
  if c = '"' then "\\\""
  else if c = '\\' then "\\\\"
  else if c = '\n' then "\\n"
  else if c = '\r' then "\\r"
  else if c = '\t' then "\\t"
  else if c = '\x00' then "\\0"
  else if Text.isHidden c then
    "\\u\x7b" ++ String.ofList (Nat.toDigits 16 c.toNat) ++ "\x7d"
  else String.singleton c

def text (r : Reference) : String :=
  "\x7b\"" ++ key ++ "\": \"" ++ String.join (r.path.toList.map shownChar) ++ "\"\x7d"

end Reference

inductive Operand where
  | literal (v : Json)
  | reference (r : Reference)

namespace Operand

def ofJson (v : Json) : Except Error Operand := do
  match ← Reference.detect v with
  | some r => return .reference r
  | none => return .literal v

def resolve (c : Cursor) : Operand → Except Error Node
  | .literal v => .ok (.value v)
  | .reference r => (c.resolve r.path).map Cursor.node

end Operand

inductive ListOperand where
  | items (operands : List Operand)
  | reference (r : Reference)

namespace ListOperand

def ofJson (operator : String) (v : Json) : Except Error ListOperand := do
  match ← Reference.detect v with
  | some r => return .reference r
  | none =>
    match v with
    | .array elements => return .items (← elements.mapM Operand.ofJson)
    | _ => .error (.invalidOperand (.notList operator v))

/-- The nodes that the list denotes at a cursor. Missing and null data are an empty list. -/
def resolve (c : Cursor) : ListOperand → Except Error (List Node)
  | .items operands => operands.mapM fun operand => operand.resolve c
  | .reference r => do
    let target ← c.resolve r.path
    match target.node with
    | .absent => return []
    | .value .null => return []
    | .value (.array elements) => return elements.map Node.value
    | node => .error (.notIterable (.noArray node))

end ListOperand

end Sift
