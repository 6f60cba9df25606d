import Sift.Proofs.Condition.Reading
import Sift.Proofs.Json.WellFormed
import Sift.Proofs.Query.Reading

/-!
# The objects in a query

Query objects stand within each other: at the keys for elements and for members, and at the names of
fields (`Query.levels`). What is asked of each of them on its own is asked of the query that is read,
object by object. Here it is that a query object without a gate selects in one way, which makes the
query `Query.Repeatable`.
-/

namespace Sift

namespace Query

/-- Whether the value at a key of a query object is a query in turn. -/
def holdsQuery (key : String) : Bool :=
  key == "$elementQuery" || key == "$indexedQuery" || !isReservedKey key

mutual

/-- The query objects in a query, itself included. -/
def levels : Json → List (List Member)
  | .object members => members :: levelsBelow members
  | _ => []

def levelsBelow : List Member → List (List Member)
  | [] => []
  | ⟨key, v⟩ :: rest =>
    if holdsQuery key then levels v ++ levelsBelow rest else levelsBelow rest

end

theorem mem_levelsBelow {members : List Member} {m : Member} (hm : m ∈ members)
    (hkey : holdsQuery m.key = true) {level : List Member} (h : level ∈ levels m.value) :
    level ∈ levelsBelow members := by
  induction members with
  | nil => cases hm
  | cons first rest ih =>
    obtain ⟨key, v⟩ := first
    rw [levelsBelow]
    obtain rfl | hm := List.mem_cons.mp hm
    · rw [if_pos hkey]
      exact List.mem_append_left _ h
    · split
      · exact List.mem_append_right _ (ih hm)
      · exact ih hm

/-- A query object without a gate filters or projects, but not both, and makes no array of an
object. -/
def SelectsOnce (level : List Member) : Prop :=
  Member.lookup gateKey level = none →
    ((Member.lookup "$filter" level).isSome → Member.lookup "$elementQuery" level = none ∧
      Member.lookup "$indexedQuery" level = none) ∧
    (Member.lookup "$asArray" level).bind Json.bool? ≠ some true

instance (level : List Member) : Decidable (SelectsOnce level) :=
  inferInstanceAs (Decidable (_ → _))

end Query

/-! ## Queries that select in one way -/

mutual

/-- The query selects in one way wherever no gate keeps a value whole. -/
inductive Query.Repeatable : Query → Prop where
  | flag (keep : Bool) : Query.Repeatable (.flag keep)
  | unreadable (source : Json) : Query.Repeatable (.unreadable source)
  | gated (source : Json) (gate : Gate) (body : Projection) :
      Query.Repeatable (.object source (some gate) body)
  | ungated (source : Json) {body : Projection} (h : body.Repeatable) :
      Query.Repeatable (.object source none body)

inductive Projection.Repeatable : Projection → Prop where
  | faulty (fault : QueryFault) : Projection.Repeatable (.faulty fault)
  | fields {fields : List FieldQuery} (names : (fields.map FieldQuery.name).Nodup)
      (h : ∀ field ∈ fields, field.query.Repeatable) : Projection.Repeatable (.fields fields)
  | selection {filter : Option Gate} {element indexed : Option Query}
      (alone : filter.isSome → element = none ∧ indexed = none)
      (helement : ∀ query ∈ element, query.Repeatable)
      (hindexed : ∀ query ∈ indexed, query.Repeatable) :
      Projection.Repeatable (.selection filter element indexed false)

end

namespace Query

variable [Pattern.Engine] {members : List Member} {parts : Parts}

theorem Parts.Of.repeatable (h : parts.Of members)
    (hgate : Member.lookup gateKey members = none) (honce : SelectsOnce members)
    (hkeys : Member.Ascending members)
    (hqueries : ∀ m ∈ members, holdsQuery m.key = true → (ofJson m.value).Repeatable) :
    parts.toProjection.Repeatable := by
  obtain ⟨halone, harray⟩ := honce hgate
  have hasArray : parts.asArray = false := by
    rw [h.asArray]
    cases hlookup : (Member.lookup "$asArray" members).bind Json.bool? with
    | none => rfl
    | some b =>
      cases b with
      | false => rfl
      | true => exact absurd hlookup harray
  -- a query at one of the two keys is read from a member
  have hnested : ∀ key, holdsQuery key = true →
      ∀ query ∈ (Member.lookup key members).map ofJson, query.Repeatable := by
    intro key hkey query hquery
    obtain ⟨v, hv, rfl⟩ := Option.map_eq_some_iff.mp hquery
    exact hqueries ⟨key, v⟩ (Member.mem_of_lookup hv) hkey
  have hfields : (parts.fields.map FieldQuery.name).Nodup := by
    rw [h.fields, List.map_map]
    exact Member.Ascending.keys_nodup (hkeys.sublist List.filter_sublist)
  have hfield : ∀ field ∈ parts.fields, field.query.Repeatable := by
    rw [h.fields]
    refine List.forall_mem_map.mpr fun m hm => ?_
    obtain ⟨hmem, hkey⟩ := List.mem_filter.mp hm
    exact hqueries m hmem (by simp [holdsQuery, hkey])
  unfold Parts.toProjection
  split
  · exact .faulty _
  split
  · exact .faulty _
  split
  · rw [hasArray, h.filter, h.element, h.indexed]
    refine .selection (fun hsome => ?_) (hnested _ rfl) (hnested _ rfl)
    rw [Option.isSome_map] at hsome
    obtain ⟨helement, hindexed⟩ := halone hsome
    rw [helement, hindexed]
    exact ⟨rfl, rfl⟩
  · exact .fields hfields hfield

theorem repeatable_ofJson (source : Json) : source.WellFormed →
    (∀ level ∈ levels source, SelectsOnce level) → (ofJson source).Repeatable := by
  refine (Json.withParts (P := fun source => source.WellFormed →
    (∀ level ∈ levels source, SelectsOnce level) → (ofJson source).Repeatable)
    (fun v hv => ?literal) (fun members ih => ?object) source).self
  case literal =>
    intro _ _
    cases v with
    | object members => exact absurd rfl (hv members)
    | bool keep => exact .flag keep
    | _ => exact .unreadable _
  case object =>
    intro hsource hlevels
    have honce : SelectsOnce members := hlevels members List.mem_cons_self
    have hqueries : ∀ m ∈ members, holdsQuery m.key = true → (ofJson m.value).Repeatable := by
      intro m hm hkey
      have hbelow : ∀ level ∈ levels m.value, SelectsOnce level := by
        intro level hlevel
        exact hlevels level (List.mem_cons_of_mem _ (mem_levelsBelow hm hkey hlevel))
      exact (ih m hm).self (hsource.of_member hm) hbelow
    rw [ofJson]
    cases hgate : gateOf members with
    | some gate => exact .gated _ gate _
    | none =>
      have hlookup : Member.lookup gateKey members = none := Option.map_eq_none_iff.mp hgate
      refine .ungated _ ?_
      cases hparts : partsOf members with
      | error fault => exact .faulty fault
      | ok parts =>
        exact (of_partsOf hparts).repeatable hlookup honce hsource.ascending_members hqueries

end Query

end Sift
