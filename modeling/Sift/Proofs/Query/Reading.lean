import Mathlib.Data.List.Basic
import Sift.Proofs.Json.WellFormed
import Sift.Proofs.Recorded
import Sift.Query.Basic

/-!
# Reading queries

The members of a query object are read one by one, and each adds a part of its own or a field
(`Query.Parts.Adds`). `Query.Parts.Of` says what they make together: each part is what stands at its key,
and the queries of fields are those of the members whose keys are not reserved, in their order.
-/

namespace Sift.Query

theorem key_ne {key reserved : String} (hkey : isReservedKey key = false)
    (hreserved : isReservedKey reserved = true) : key ≠ reserved := by
  rintro rfl
  exact Bool.false_ne_true (hkey.symm.trans hreserved)

theorem Parts.toProjection_of_selects {parts : Parts}
    (hselects : (parts.filter.isSome || parts.indexed.isSome) = true)
    (helement : parts.element = none) :
    parts.toProjection = if parts.fields.isEmpty then
      .selection parts.filter none parts.indexed parts.asArray else .faulty .mixed := by
  have hentries : parts.selectsEntries = true := by
    rw [selectsEntries, hselects, helement]
    rfl
  have hall : parts.selects = true := by
    rw [selects, helement, Option.isSome_none, Bool.or_false, hselects]
  rw [toProjection, hall, hentries, Bool.not_true, Bool.and_false, Bool.true_and, if_pos rfl,
    if_neg Bool.false_ne_true, helement]
  cases parts.fields.isEmpty <;> rfl

variable [Pattern.Engine]

structure Parts.Of (members : List Member) (parts : Parts) : Prop where
  filter : parts.filter = (Member.lookup "$filter" members).map Condition.ofJson
  element : parts.element = (Member.lookup "$elementQuery" members).map ofJson
  indexed : parts.indexed = (Member.lookup "$indexedQuery" members).map ofJson
  asArray : parts.asArray = ((Member.lookup "$asArray" members).bind Json.bool?).getD false
  fields : parts.fields =
    (members.filter fun m => !isReservedKey m.key).map fun m => ⟨m.key, ofJson m.value⟩

/-- The projection of a query object, beside its gate. -/
def bodyOf (members : List Member) : Projection :=
  match partsOf members with
  | .ok parts => parts.toProjection
  | .error fault => .faulty fault

variable {members : List Member} {parts : Parts}

theorem ofJson_object (members : List Member) :
    ofJson (.object members) = .object (.object members) (gateOf members) (bodyOf members) := by
  rw [ofJson]
  rfl

theorem ofJson_ungated (hgate : Member.lookup gateKey members = none) :
    ofJson (.object members) = .object (.object members) none (bodyOf members) := by
  rw [ofJson_object, gateOf, hgate]
  rfl

/-! ## Member by member -/

/-- What a member of a query object adds to the parts that the others make. -/
def Parts.ofMember : Member → Except QueryFault (Parts → Parts)
  | ⟨key, v⟩ =>
    if key = gateKey then .ok id
    else if key = "$filter" then .ok fun parts => { parts with filter := some (Condition.ofJson v) }
    else if key = "$elementQuery" then .ok fun parts => { parts with element := some (ofJson v) }
    else if key = "$indexedQuery" then .ok fun parts => { parts with indexed := some (ofJson v) }
    else if key = "$asArray" then
      match v with
      | .bool asArray => .ok fun parts => { parts with asArray := asArray }
      | _ => .error (.asArrayNotBoolean v)
    else if isReservedKey key then .error (.unknownKey key)
    else .ok fun parts => { parts with fields := ⟨key, ofJson v⟩ :: parts.fields }

theorem partsOf_cons (m : Member) (rest : List Member) :
    partsOf (m :: rest) = Parts.ofMember m >>= fun add => (partsOf rest).map add := by
  obtain ⟨key, v⟩ := m
  conv_lhs => unfold partsOf
  unfold Parts.ofMember
  dsimp only
  -- a key with a meaning changes its own part, and another one is a field or a fault
  split
  · cases partsOf rest <;> rfl
  split
  · rfl
  split
  · rfl
  split
  · rfl
  split
  · cases v <;> rfl
  split <;> rfl

/-- What a member adds is a part of its own, or a field. -/
inductive Parts.Adds : Member → (Parts → Parts) → Prop where
  | gate (v : Json) : Adds ⟨gateKey, v⟩ id
  | filter (v : Json) :
      Adds ⟨"$filter", v⟩ fun parts => { parts with filter := some (Condition.ofJson v) }
  | element (v : Json) :
      Adds ⟨"$elementQuery", v⟩ fun parts => { parts with element := some (ofJson v) }
  | indexed (v : Json) :
      Adds ⟨"$indexedQuery", v⟩ fun parts => { parts with indexed := some (ofJson v) }
  | asArray (b : Bool) : Adds ⟨"$asArray", .bool b⟩ fun parts => { parts with asArray := b }
  | field {key : String} (v : Json) (h : isReservedKey key = false) :
      Adds ⟨key, v⟩ fun parts => { parts with fields := ⟨key, ofJson v⟩ :: parts.fields }

theorem Parts.adds_of_ofMember {m : Member} {add : Parts → Parts} (h : ofMember m = .ok add) :
    Adds m add := by
  obtain ⟨key, v⟩ := m
  unfold ofMember at h
  dsimp only at h
  split at h
  next hkey =>
    cases h
    exact hkey ▸ .gate v
  split at h
  next hkey =>
    cases h
    exact hkey ▸ .filter v
  split at h
  next hkey =>
    cases h
    exact hkey ▸ .element v
  split at h
  next hkey =>
    cases h
    exact hkey ▸ .indexed v
  split at h
  next hkey =>
    split at h
    next b =>
      cases h
      exact hkey ▸ .asArray b
    next => cases h
  split at h
  next => cases h
  next hreserved =>
    cases h
    exact .field v (eq_false_of_ne_true hreserved)

theorem partsOf_cons_eq_ok {m : Member} {rest : List Member}
    (h : partsOf (m :: rest) = .ok parts) :
    ∃ add others, Parts.Adds m add ∧ partsOf rest = .ok others ∧ parts = add others := by
  rw [partsOf_cons] at h
  obtain ⟨add, hadd, h⟩ := Except.bind_eq_ok.mp h
  obtain ⟨others, hothers, rfl⟩ := Except.map_eq_ok.mp h
  exact ⟨add, others, Parts.adds_of_ofMember hadd, hothers, rfl⟩

theorem Parts.Of.add {m : Member} {rest : List Member} {add : Parts → Parts} (h : Parts.Adds m add)
    (ho : Parts.Of rest parts) : Parts.Of (m :: rest) (add parts) := by
  cases h with
  | gate v =>
    constructor <;> simp [Member.lookup, gateKey, isReservedKey, ho.filter, ho.element, ho.indexed,
      ho.asArray, ho.fields]
  | filter v =>
    constructor <;> simp [Member.lookup, isReservedKey, ho.element, ho.indexed, ho.asArray, ho.fields]
  | element v =>
    constructor <;> simp [Member.lookup, isReservedKey, ho.filter, ho.indexed, ho.asArray, ho.fields]
  | indexed v =>
    constructor <;> simp [Member.lookup, isReservedKey, ho.filter, ho.element, ho.asArray, ho.fields]
  | asArray b =>
    constructor <;> simp [Member.lookup, isReservedKey, ho.filter, ho.element, ho.indexed, ho.fields,
      Json.bool?]
  | @field key v hkey =>
    have hfilter : key ≠ "$filter" := key_ne hkey rfl
    have helement : key ≠ "$elementQuery" := key_ne hkey rfl
    have hindexed : key ≠ "$indexedQuery" := key_ne hkey rfl
    have hasArray : key ≠ "$asArray" := key_ne hkey rfl
    constructor <;> simp [Member.lookup, hfilter, helement, hindexed, hasArray, hkey, ho.filter,
      ho.element, ho.indexed, ho.asArray, ho.fields]

theorem of_partsOf (h : partsOf members = .ok parts) : Parts.Of members parts := by
  induction members generalizing parts with
  | nil =>
    cases h
    exact ⟨rfl, rfl, rfl, rfl, rfl⟩
  | cons m rest ih =>
    obtain ⟨add, others, hadd, hothers, rfl⟩ := partsOf_cons_eq_ok h
    exact (ih hothers).add hadd

/-! ## Entries -/

/-- The key for arrays says nothing about the other parts. -/
theorem Parts.Adds.asArray_comm {m : Member} {add : Parts → Parts} (h : Adds m add)
    (hkey : m.key ≠ "$asArray") (asArray : Bool) (parts : Parts) :
    add { parts with asArray := asArray } = { add parts with asArray := asArray } := by
  cases h with
  | asArray b => exact absurd rfl hkey
  | _ => rfl

/-- Where the key for arrays is added to a query object, it is what the parts say of it. -/
theorem partsOf_insert_asArray (asArray : Bool) (h : Member.lookup "$asArray" members = none) :
    partsOf (Member.insert ⟨"$asArray", .bool asArray⟩ members) =
      (partsOf members).map fun parts => { parts with asArray := asArray } := by
  obtain ⟨before, after, rfl, hinsert⟩ := Member.insert_split ⟨"$asArray", .bool asArray⟩ h
  rw [hinsert]
  clear hinsert
  induction before with
  | nil => exact partsOf_cons _ _
  | cons m rest ih =>
    rw [List.cons_append, Member.lookup] at h
    split at h
    next => cases h
    next hkey =>
      rw [List.cons_append, List.cons_append, partsOf_cons, partsOf_cons, ih h]
      cases hadd : Parts.ofMember m with
      | error fault => rfl
      | ok add =>
        cases partsOf (rest ++ after) with
        | error fault => rfl
        | ok parts => exact congrArg Except.ok ((Parts.adds_of_ofMember hadd).asArray_comm hkey asArray parts)

/-! ## Fields -/

theorem Parts.ofMember_field {m : Member} (h : isReservedKey m.key = false) :
    ofMember m = .ok fun parts => { parts with fields := ⟨m.key, ofJson m.value⟩ :: parts.fields } := by
  obtain ⟨key, v⟩ := m
  have hkey : ∀ reserved, isReservedKey reserved = true → key ≠ reserved := fun _ => key_ne h
  unfold ofMember
  dsimp only
  rw [if_neg (hkey gateKey rfl), if_neg (hkey "$filter" rfl), if_neg (hkey "$elementQuery" rfl),
    if_neg (hkey "$indexedQuery" rfl), if_neg (hkey "$asArray" rfl), if_neg]
  exact ne_true_of_eq_false h

theorem partsOf_fields (h : ∀ m ∈ members, isReservedKey m.key = false) :
    partsOf members =
      .ok { Parts.empty with fields := members.map fun m => ⟨m.key, ofJson m.value⟩ } := by
  induction members with
  | nil => rfl
  | cons m rest ih =>
    obtain ⟨hm, hrest⟩ := List.forall_mem_cons.mp h
    rw [partsOf_cons, Parts.ofMember_field hm, ih hrest]
    rfl

/-- A query object whose keys are not reserved projects fields. -/
theorem ofJson_fields (h : ∀ m ∈ members, isReservedKey m.key = false) :
    ofJson (.object members) = .object (.object members) none
      (.fields (members.map fun m => ⟨m.key, ofJson m.value⟩)) := by
  have hgate : Member.lookup gateKey members = none := by
    rw [← Option.not_isSome_iff_eq_none, Member.isSome_lookup_iff]
    intro hmem
    obtain ⟨m, hm, hkey⟩ := List.mem_map.mp hmem
    have hreserved := h m hm
    rw [hkey] at hreserved
    cases hreserved
  rw [ofJson_ungated hgate, bodyOf, partsOf_fields h]
  rfl

end Sift.Query
