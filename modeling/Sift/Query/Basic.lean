import Sift.Condition.Reader

/-!
# Queries

A query says how a value is projected: as a whole or not at all, by its fields, or by its elements
or members. `Query.ofJson` reads the query that a value stands for, and never fails: a query that
makes no sense keeps its fault, which comes up when a value is projected through it. The conditions
in a query are kept with their errors likewise.
-/

namespace Sift

/-- A condition in a query, or the error of reading it. -/
abbrev Gate := Except Error Condition

mutual

inductive Query where
  /-- The value is kept whole, or dropped. -/
  | flag (keep : Bool)
  /-- A value that is neither a truth value nor an object. -/
  | unreadable (source : Json)
  /-- An object. With a gate, a value that passes it is kept whole. -/
  | object (source : Json) (gate : Option Gate) (body : Projection)

/-- What a query object says beside its gate. -/
inductive Projection where
  | faulty (fault : QueryFault)
  | fields (fields : List FieldQuery)
  /-- A filter for elements or entries, and queries for what is kept. -/
  | selection (filter : Option Gate) (element indexed : Option Query) (asArray : Bool)

structure FieldQuery where
  name : String
  query : Query

end

namespace Query

structure Parts where
  filter : Option Gate
  element : Option Query
  indexed : Option Query
  asArray : Bool
  fields : List FieldQuery

namespace Parts

def empty : Parts := ⟨none, none, none, false, []⟩

/-- Whether elements or entries are selected. -/
def selects (parts : Parts) : Bool :=
  parts.filter.isSome || parts.element.isSome || parts.indexed.isSome

/-- Whether entries may be selected. -/
def selectsEntries (parts : Parts) : Bool :=
  (parts.filter.isSome || parts.indexed.isSome) && parts.element.isNone

def toProjection (parts : Parts) : Projection :=
  if parts.selects && !parts.fields.isEmpty then .faulty .mixed
  else if parts.asArray && !parts.selectsEntries then .faulty .asArrayAlone
  else if parts.selects then .selection parts.filter parts.element parts.indexed parts.asArray
  else .fields parts.fields

end Parts

def gateKey : String := "$includeIf"

variable [Pattern.Engine]

def gateOf (members : List Member) : Option Gate :=
  (Member.lookup gateKey members).map Condition.ofJson

mutual

def ofJson : Json → Query
  | .bool keep => .flag keep
  | .object members =>
    .object (.object members) (gateOf members)
      (match partsOf members with
        | .ok parts => parts.toProjection
        | .error fault => .faulty fault)
  | source => .unreadable source

/-- The parts that the members of a query object make, up to the first fault in their order. -/
def partsOf : List Member → Except QueryFault Parts
  | [] => .ok .empty
  | ⟨key, v⟩ :: rest =>
    if key = gateKey then partsOf rest
    else if key = "$filter" then
      (partsOf rest).map fun parts => { parts with filter := some (Condition.ofJson v) }
    else if key = "$elementQuery" then
      (partsOf rest).map fun parts => { parts with element := some (ofJson v) }
    else if key = "$indexedQuery" then
      (partsOf rest).map fun parts => { parts with indexed := some (ofJson v) }
    else if key = "$asArray" then
      match v with
      | .bool asArray => (partsOf rest).map fun parts => { parts with asArray := asArray }
      | _ => .error (.asArrayNotBoolean v)
    else if isReservedKey key then .error (.unknownKey key)
    else
      (partsOf rest).map fun parts => { parts with fields := ⟨key, ofJson v⟩ :: parts.fields }

end

end Query

end Sift
