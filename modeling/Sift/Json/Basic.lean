import Sift.Number.Basic

/-!
# JSON values

A `Json` is null, a truth value, a number, a string, an array of elements or an object. An object
holds its members as a list. The list is meant to be in increasing order of keys, compared by code
points, with no key twice (`Member.Ascending`); `Member.insert` keeps that order and
`Member.lookup` finds the value at a key.
-/

namespace Sift

mutual

inductive Json where
  | null
  | bool (b : Bool)
  | number (n : Number)
  | string (s : String)
  | array (elements : List Json)
  | object (members : List Member)

structure Member where
  key : String
  value : Json

end

deriving instance Inhabited for Json
deriving instance Inhabited for Member

namespace Member

def lookup (key : String) : List Member → Option Json
  | [] => none
  | m :: rest => if m.key = key then some m.value else lookup key rest

/-- Add a member in order of keys. A member with the same key is replaced. -/
def insert (new : Member) : List Member → List Member
  | [] => [new]
  | m :: rest =>
    if new.key < m.key then new :: m :: rest
    else if new.key = m.key then new :: rest
    else m :: insert new rest

/-- The members of a list in order of keys; of several with one key the last stays. -/
def sort (members : List Member) : List Member :=
  members.foldl (fun sorted m => insert m sorted) []

/-- Keys stand in increasing order, so none occurs twice. -/
def Ascending (members : List Member) : Prop :=
  members.Pairwise (fun m n => m.key < n.key)

/-- The object with the members `key` and `value` that stands for a member. -/
def toJson (m : Member) : Json :=
  .object [⟨"key", .string m.key⟩, ⟨"value", m.value⟩]

end Member

namespace Json

def isNull : Json → Bool
  | .null => true
  | _ => false

def string? : Json → Option String
  | .string s => some s
  | _ => none

def bool? : Json → Option Bool
  | .bool b => some b
  | _ => none

/-- The value at a key of an object; any other value has none. -/
def get? (v : Json) (key : String) : Option Json :=
  match v with
  | .object members => Member.lookup key members
  | _ => none

def ofNat (n : Nat) : Json :=
  .number (.int n)

def ofChar (c : Char) : Json :=
  .string (String.singleton c)

end Json

end Sift
