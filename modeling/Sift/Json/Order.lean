import Sift.Json.Basic

/-!
# Kinds, equality and order of values

`Json.kind` is the type of a value as conditions see it: an integer beyond `2 ^ 53 - 1` in
magnitude is of a kind of its own, apart from the other numbers.

* `Json.equal` : equality of values. Numbers are equal when they are of one kind and denote one
  quantity, however they are written; the order of members does not matter.
* `Json.compare?` : the order between strings, between truth values and between numbers of one
  kind. Nothing else is ordered.
-/

namespace Sift

/-- The type of a value, as conditions see it. -/
inductive Kind where
  | null
  | boolean
  | number
  /-- An integer outside the range that binary64 holds without gaps. -/
  | bigInt
  | string
  | array
  | object
  deriving DecidableEq, Repr

namespace Number

/-- The largest integer below which binary64 has no gaps. -/
def maxSafe : Nat := Nat.pow 2 53 - 1

/-- Whether the number is an integer beyond `maxSafe` in magnitude. -/
def isBig : Number → Bool
  | .int n => maxSafe < n.natAbs
  | .float _ => false

def kind (n : Number) : Kind :=
  if n.isBig then .bigInt else .number

/-- Whether two numbers are of one kind and denote one quantity. -/
def equal (m n : Number) : Bool :=
  m.kind = n.kind && m.compare n == .eq

end Number

namespace Json

def kind : Json → Kind
  | .null => .null
  | .bool _ => .boolean
  | .number n => n.kind
  | .string _ => .string
  | .array _ => .array
  | .object _ => .object

mutual

def equal : Json → Json → Bool
  | .null, .null => true
  | .bool a, .bool b => a == b
  | .number m, .number n => m.equal n
  | .string s, .string t => s == t
  | .array xs, .array ys => equalElements xs ys
  | .object xs, .object ys => xs.length == ys.length && equalMembers xs ys
  | _, _ => false

def equalElements : List Json → List Json → Bool
  | [], [] => true
  | x :: xs, y :: ys => x.equal y && equalElements xs ys
  | _, _ => false

/-- Whether each member of the first list has an equal value at its key in the second. -/
def equalMembers : List Member → List Member → Bool
  | [], _ => true
  | ⟨key, x⟩ :: xs, ys =>
    (match Member.lookup key ys with
      | some y => x.equal y
      | none => false) && equalMembers xs ys

end

/-- The order of two values of one ordered kind. -/
def compare? : Json → Json → Option Ordering
  | .string s, .string t => some (compareOfLessAndEq s t)
  | .bool a, .bool b => some (Ord.compare a b)
  | .number m, .number n => if m.kind = n.kind then some (m.compare n) else none
  | _, _ => none

/-- Whether the values are ordered and their order passes the test. -/
def ordered (test : Ordering → Bool) (a b : Json) : Bool :=
  (compare? a b).any test

end Json

end Sift
