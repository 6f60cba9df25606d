import Sift.Condition.Evaluation
import Sift.Query.Basic
import Sift.Sequence.Chain

/-!
# Projecting values

The meaning of a query is a `Projector`: a gate, which decides whether a value is included, and a
shape, which it is given then. `Projector.run` is both in turn, except that null is passed on
untouched; for a field the gate counts for null too.

Elements are filtered first and projected afterwards, while the members of an object go through
filter and projection one at a time. Where a projected element is missing its place is kept by
null, and a member without projection is dropped.

`execute` projects a value through a query that is given as a value itself.
-/

namespace Sift

/-- The meaning of a query: whether a value is included, and what becomes of it. -/
structure Projector where
  passes : Json → Evaluation Bool
  shape : Json → Evaluation Json

namespace Projector

/-- Project a value; nothing if it is not included. -/
def run (p : Projector) (v : Json) : Evaluation (Option Json) :=
  if v.isNull then pure (some .null)
  else do
    if ← p.passes v then
      let shaped ← p.shape v
      pure (some shaped)
    else pure none

def runOptional (p : Option Projector) (v : Json) : Evaluation (Option Json) :=
  match p with
  | some p => p.run v
  | none => pure (some v)

def fail {α : Type} (e : Error) : Evaluation α :=
  Recorded.ofExcept (.error e)

def readGate (gate : Option Gate) : Evaluation (Option Condition) :=
  match gate with
  | none => pure none
  | some gate => do
    let condition ← Recorded.ofExcept gate
    pure (some condition)

def passesGate (gate : Option Gate) (v : Json) : Evaluation Bool := do
  match ← readGate gate with
  | none => pure true
  | some condition => condition.matchesValue v

/-- Filter the elements of an array, and project those that are kept. -/
def selectElements (filter : Option Gate) (element : Option Projector) (elements : List Json) :
    Evaluation Json := do
  let condition ← readGate filter
  let kept ← Sequence.filter (fun v _ =>
    match condition with
    | some condition => condition.matchesValue v
    | none => pure true) elements
  match element with
  | none => pure (.array kept)
  | some p =>
    let projected ← kept.mapM fun v => do
      let projected ← p.run v
      pure (projected.getD .null)
    pure (.array projected)

/-- Filter the members of an object, and project those that are kept: to an array of values, or to
an object. -/
def selectMembers (filter : Option Gate) (indexed : Option Projector) (asArray : Bool)
    (members : List Member) : Evaluation Json := do
  let condition ← readGate filter
  let kept : Chain Evaluation Member := (Chain.items members).maybeFilter condition
    fun condition m _ => condition.matchesEntry m
  if asArray then
    let values ← kept.reduce (fun values m _ => do
      let projected ← runOptional indexed m.value
      pure (values ++ [projected.getD .null])) []
    pure (.array values)
  else
    let projections : Chain Evaluation (String × Option Json) := kept.map fun m _ => do
      let projected ← runOptional indexed m.value
      pure (m.key, projected)
    let present := projections.filter fun (_, projected) _ => pure projected.isSome
    let result ← present.toIndex (fun (key, _) => key)
      fun (_, projected) => pure (projected.getD .null)
    pure (.object result)

/-- Project the fields of an object that have a query. -/
def selectFields (fields : List (String × Projector)) (members : List Member) :
    Evaluation Json := do
  let chain : Chain Evaluation (String × Projector) := Chain.items fields
  let result ← chain.reduce (fun result (key, p) _ => do
    match Member.lookup key members with
    | none => pure result
    | some v =>
      if ← p.passes v then
        let shaped ← p.shape v
        pure (Member.insert ⟨key, shaped⟩ result)
      else pure result) []
  pure (.object result)

end Projector

open Projector in
mutual

def Query.projector : Query → Projector
  | .flag keep => ⟨fun _ => pure keep, fun v => pure v⟩
  | .unreadable source => ⟨fun _ => pure true, fun v => fail (.unknownQuery v source)⟩
  | .object source gate body =>
    ⟨passesGate gate, body.shape source gate.isSome⟩

/-- The shape that a projection gives a value: the value itself if it is null or a gate stands
beside the projection, and an error if the projection does not suit the value. -/
def Projection.shape (source : Json) (gated : Bool) : Projection → Json → Evaluation Json
  | .faulty fault => fun _ => fail (.invalidQuery fault)
  | .fields fields =>
    let projectors := FieldQuery.projectors fields
    fun v =>
      if gated || v.isNull then pure v
      else
        match v with
        | .object members => selectFields projectors members
        | v => fail (.unknownQuery v source)
  | .selection filter element indexed asArray =>
    let element := Query.projector? element
    let indexed := Query.projector? indexed
    fun v =>
      if gated || v.isNull then pure v
      else
        match v with
        | .array elements =>
          if (filter.isSome || element.isSome) && indexed.isNone && !asArray then
            selectElements filter element elements
          else fail (.unknownQuery v source)
        | .object members =>
          if (filter.isSome || indexed.isSome) && element.isNone then
            selectMembers filter indexed asArray members
          else fail (.unknownQuery v source)
        | v => fail (.unknownQuery v source)

def Query.projector? : Option Query → Option Projector
  | none => none
  | some query => some query.projector

def FieldQuery.projectors : List FieldQuery → List (String × Projector)
  | [] => []
  | ⟨name, query⟩ :: rest => (name, query.projector) :: FieldQuery.projectors rest

end

/-- Project a value through a query; nothing if it is not included. -/
def execute [Pattern.Engine] (v query : Json) : Evaluation (Option Json) :=
  (Query.ofJson query).projector.run v

end Sift
