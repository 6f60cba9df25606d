import Sift.Proofs.Condition.Single
import Sift.Proofs.Pattern.Plain
import Sift.Proofs.Query.Confinement
import Sift.Proofs.Query.Members
import Sift.Proofs.Query.Reading

/-!
# Objects and arrays of members

A query that selects the members of an object makes an object of them, or an array if it says so. Both
are made of the same outcomes, so the two queries fail alike, and the array has at the place of each
member that is kept what the object has at its key, or null (`execute_index_agrees`). The keys of an
object ascend, so where one is assembled no key comes up twice (`Confinement.noCollision`).
-/

namespace Sift

/-! ## Queries for members -/

namespace Query

/-- The query object selects members, and says nothing of elements, of a gate or of an array. -/
structure SelectsMembers (query : List Member) : Prop where
  selects : (Member.lookup "$filter" query).isSome ∨ (Member.lookup "$indexedQuery" query).isSome
  element : Member.lookup "$elementQuery" query = none
  gate : Member.lookup gateKey query = none
  asArray : Member.lookup "$asArray" query = none

/-- Whether a member passes the filter of a query object. -/
def survives [Pattern.Engine] (query : List Member) (m : Member) : Except Error Bool :=
  match Member.lookup "$filter" query with
  | none => .ok true
  | some source => do
    let condition ← Condition.ofJson source
    (condition.matchesEntry m).result

def projectionOf [Pattern.Engine] (query : List Member) (v : Json) : Except Error (Option Json) :=
  match Member.lookup "$indexedQuery" query with
  | none => .ok (some v)
  | some source => (execute v source).result

section
variable [Pattern.Engine] {query : List Member}

theorem filter_survives {members kept : List Member}
    (h : Projector.survivors ((Member.lookup "$filter" query).map Condition.ofJson) members =
      .ok kept) : Sequence.filter (fun m _ => survives query m) members = .ok kept := by
  obtain ⟨condition, hcondition, hkept⟩ := Except.bind_eq_ok.mp h
  have hsurvives : ∀ m, survives query m = (Projector.keeps condition m).result := by
    intro m
    unfold survives
    cases hfilter : Member.lookup "$filter" query with
    | none =>
      rw [hfilter] at hcondition
      cases hcondition
      rfl
    | some source =>
      rw [hfilter] at hcondition
      obtain ⟨condition, hread, hcondition⟩ := Recorded.result_bind_eq_ok.mp hcondition
      cases hcondition
      change (Condition.ofJson source >>= fun condition => (condition.matchesEntry m).result) = _
      rw [Recorded.result_ofExcept] at hread
      rw [hread]
      rfl
  simp only [hsurvives]
  exact hkept

theorem projectionOf_eq (query : List Member) (v : Json) :
    projectionOf query v = (Projector.runOptional
      (Query.projector? ((Member.lookup "$indexedQuery" query).map ofJson)) v).result := by
  unfold projectionOf
  cases Member.lookup "$indexedQuery" query <;> rfl

/-- Read with the key for arrays or without it, the query object selects the same members, or has the
same fault. -/
theorem SelectsMembers.ofJson (h : SelectsMembers query) :
    ∃ body : Bool → Projection,
      ((∃ fault, body = fun _ => .faulty fault) ∨
        body = .selection ((Member.lookup "$filter" query).map Condition.ofJson) none
          ((Member.lookup "$indexedQuery" query).map ofJson)) ∧
      Query.ofJson (.object query) = .object (.object query) none (body false) ∧
      Query.ofJson (.object (Member.insert ⟨"$asArray", .bool true⟩ query)) =
        .object (.object (Member.insert ⟨"$asArray", .bool true⟩ query)) none (body true) := by
  have hgate : Member.lookup gateKey (Member.insert ⟨"$asArray", .bool true⟩ query) = none :=
    (Member.lookup_insert_of_ne (by decide) query).trans h.gate
  rw [ofJson_ungated h.gate, ofJson_ungated hgate]
  unfold bodyOf
  rw [partsOf_insert_asArray true h.asArray]
  cases hparts : partsOf query with
  | error fault => exact ⟨fun _ => .faulty fault, .inl ⟨fault, rfl⟩, rfl, rfl⟩
  | ok parts =>
    have ho := of_partsOf hparts
    have helement : parts.element = none := by
      rw [ho.element, h.element]
      rfl
    have hasArray : parts.asArray = false := by
      rw [ho.asArray, h.asArray]
      rfl
    have hselects : (parts.filter.isSome || parts.indexed.isSome) = true := by
      rw [ho.filter, ho.indexed, Option.isSome_map, Option.isSome_map, Bool.or_eq_true]
      exact h.selects
    have hproject := Parts.toProjection_of_selects hselects helement
    have hproject' : Parts.toProjection { parts with asArray := true } = _ :=
      Parts.toProjection_of_selects hselects helement
    rw [hasArray] at hproject
    refine ⟨fun asArray => if parts.fields.isEmpty then
      .selection parts.filter none parts.indexed asArray else .faulty .mixed, ?_,
      congrArg _ hproject, congrArg _ hproject'⟩
    rw [← ho.filter, ← ho.indexed]
    cases parts.fields.isEmpty with
    | false => exact .inl ⟨.mixed, rfl⟩
    | true => exact .inr rfl

end

end Query

/-! ## What is made of the members that are kept -/

namespace Projector

variable {indexed : Option Projector} {kept : List Member} {results : List Outcome}

theorem keys_present_sublist
    (h : List.Forall₂ (fun m o => outcome indexed m = .ok o) kept results) :
    ((results.filterMap Outcome.present).map Member.key).Sublist (kept.map Member.key) := by
  induction h with
  | nil => exact .slnil
  | @cons m o rest others ho _ ih =>
    obtain ⟨projected, -, rfl⟩ := Except.map_eq_ok.mp ho
    cases projected with
    | none => exact ih.cons m.key
    | some v => exact ih.cons_cons m.key

theorem ascending_present (h : List.Forall₂ (fun m o => outcome indexed m = .ok o) kept results)
    (hkept : Member.Ascending kept) : Member.Ascending (results.filterMap Outcome.present) :=
  List.pairwise_map.mp ((List.pairwise_map.mpr hkept).sublist (keys_present_sublist h))

theorem lookup_present (h : List.Forall₂ (fun m o => outcome indexed m = .ok o) kept results)
    (hkept : Member.Ascending kept) : ∀ m ∈ kept, outcome indexed m =
      .ok (m.key, Member.lookup m.key (results.filterMap Outcome.present)) := by
  induction h with
  | nil => exact nofun
  | @cons m o rest others ho hrest ih =>
    obtain ⟨hfirst, hascending⟩ := List.pairwise_cons.mp hkept
    have hothers := ih hascending
    have hnew : Member.lookup m.key (others.filterMap Outcome.present) = none := by
      rw [← Option.not_isSome_iff_eq_none, Member.isSome_lookup_iff]
      intro hmem
      obtain ⟨n, hn, hkey⟩ := List.mem_map.mp ((keys_present_sublist hrest).subset hmem)
      exact absurd hkey (ne_of_gt (hfirst n hn))
    obtain ⟨projected, hprojected, rfl⟩ := Except.map_eq_ok.mp ho
    cases projected with
    | none =>
      refine List.forall_mem_cons.mpr ⟨?_, hothers⟩
      rw [ho]
      exact congrArg (fun projected => Except.ok (m.key, projected)) hnew.symm
    | some v =>
      refine List.forall_mem_cons.mpr ⟨?_, fun n hn => ?_⟩
      · rw [ho]
        exact congrArg (fun projected => Except.ok (m.key, projected)) (if_pos rfl).symm
      · rw [hothers n hn]
        exact congrArg (fun projected => Except.ok (n.key, projected))
          (if_neg (ne_of_lt (hfirst n hn))).symm

/-- An object has the values that are left of the members, and no others. -/
theorem lookup_present_eq_some_iff
    (h : List.Forall₂ (fun m o => outcome indexed m = .ok o) kept results)
    (hkept : Member.Ascending kept) {key : String} {v : Json} :
    Member.lookup key (results.filterMap Outcome.present) = some v ↔
      ∃ m ∈ kept, m.key = key ∧ (runOptional indexed m.value).result = .ok (some v) := by
  have hvalue : ∀ m ∈ kept, (runOptional indexed m.value).result =
      .ok (Member.lookup m.key (results.filterMap Outcome.present)) := by
    intro m hm
    obtain ⟨projected, hprojected, heq⟩ := Except.map_eq_ok.mp (lookup_present h hkept m hm)
    cases heq
    exact hprojected
  constructor
  · intro hv
    have hkey : key ∈ (results.filterMap Outcome.present).map Member.key :=
      Member.isSome_lookup_iff.mp (Option.isSome_of_eq_some hv)
    obtain ⟨m, hm, rfl⟩ := List.mem_map.mp ((keys_present_sublist h).subset hkey)
    exact ⟨m, hm, rfl, by rw [hvalue m hm, hv]⟩
  · rintro ⟨m, hm, rfl, hv⟩
    rw [hvalue m hm] at hv
    exact Except.ok.inj hv

/-- An array has at the place of each member that is kept what an object has at its key, or null. -/
theorem values_eq_lookups (h : List.Forall₂ (fun m o => outcome indexed m = .ok o) kept results)
    (hkept : Member.Ascending kept) :
    (results.map fun o => o.2.getD .null) = kept.map fun m =>
      (Member.lookup m.key (results.filterMap Outcome.present)).getD .null := by
  have hpairs := (List.forall₂_and_left kept results).mpr ⟨lookup_present h hkept, h⟩
  rw [← List.forall₂_eq_eq_eq, List.forall₂_map_left_iff, List.forall₂_map_right_iff]
  refine hpairs.flip.imp fun o m hmo => ?_
  obtain ⟨hlookup, ho⟩ := hmo
  rw [hlookup] at ho
  cases ho
  rfl

end Projector

/-! ## Keys that come up twice -/

/-- Projecting a well-formed value never fails for a key that comes up twice. -/
theorem Confinement.noCollision :
    Confinement Json.WellFormed fun e => ∀ key, e ≠ .duplicateKey key where
  element _ h _ hv := h.of_mem hv
  member _ h _ hm := h.of_member hm
  reading e he key heq := by
    rw [heq] at he
    exact he.not_ofProjection (.duplicateKey key)
  test e he key heq := by
    rw [heq] at he
    exact he.not_ofProjection (.duplicateKey key)
  unknownQuery _ _ _ := nofun
  invalidQuery _ _ := nofun
  duplicateKey _ h := .inl h.ascending_members

/-! ## The object and the array -/

def Query.withAsArray (query : List Member) : List Member :=
  Member.insert ⟨"$asArray", .bool true⟩ query

/-- A query that selects members fails as an object as it does as an array. Otherwise the object has what
becomes of the members that are kept, as far as they are included, and the array has for each of them
what the object has at its key, or null. No key comes up twice, whatever the query. -/
theorem execute_index_agrees [Pattern.Engine] :
    (∀ query, Query.SelectsMembers query → ∀ members, Member.Ascending members →
      (∀ e, (execute (.object members) (.object query)).result = .error e ↔
        (execute (.object members) (.object (Query.withAsArray query))).result = .error e) ∧
      ∀ r, (execute (.object members) (.object query)).result = .ok r →
        ∃ kept index, Sequence.filter (fun m _ => Query.survives query m) members = .ok kept ∧
          r = some (.object index) ∧ Member.Ascending index ∧
          (∀ key v, Member.lookup key index = some v ↔
            ∃ m ∈ kept, m.key = key ∧ Query.projectionOf query m.value = .ok (some v)) ∧
          (execute (.object members) (.object (Query.withAsArray query))).result =
            .ok (some (.array (kept.map fun m => (Member.lookup m.key index).getD .null)))) ∧
    ∀ v query key, v.WellFormed → (execute v query).result ≠ .error (.duplicateKey key) := by
  refine ⟨fun query hquery members hmembers => ?_, fun v query key hv heq => ?_⟩
  · obtain ⟨body, hbody, hobject, harray⟩ := hquery.ofJson
    obtain ⟨fault, rfl⟩ | rfl := hbody
    · have hfails : ∀ source, Query.ofJson source = .object source none (.faulty fault) →
          (execute (.object members) source).result = .error (.invalidQuery fault) := by
        intro source hread
        unfold execute
        rw [hread]
        rfl
      rw [hfails _ hobject, Query.withAsArray, hfails _ harray]
      exact ⟨fun _ => Iff.rfl, nofun⟩
    · have hselects : (((Member.lookup "$filter" query).map Condition.ofJson).isSome ||
          ((Member.lookup "$indexedQuery" query).map Query.ofJson).isSome) = true := by
        rw [Option.isSome_map, Option.isSome_map, Bool.or_eq_true]
        exact hquery.selects
      have hasObject := result_execute_members hobject hselects hmembers
      have hasArray := result_execute_members harray hselects hmembers
      rw [Query.withAsArray, hasObject, hasArray]
      refine ⟨fun e => Except.map_eq_error.trans Except.map_eq_error.symm, fun r hr => ?_⟩
      obtain ⟨results, hresults, rfl⟩ := Except.map_eq_ok.mp hr
      obtain ⟨kept, hkept, hprojected⟩ := Projector.outcomes_eq_ok_iff.mp hresults
      have hpairs := Except.mapM_eq_ok_iff.mp hprojected
      have hascending : Member.Ascending kept :=
        hmembers.sublist (Projector.survivors_sublist hkept)
      refine ⟨kept, results.filterMap Projector.Outcome.present, Query.filter_survives hkept, rfl,
        Projector.ascending_present hpairs hascending, fun key v => ?_, ?_⟩
      · simp only [Query.projectionOf_eq]
        exact Projector.lookup_present_eq_some_iff hpairs hascending
      · rw [hresults, ← Projector.values_eq_lookups hpairs hascending]
        rfl
  · exact (Confinement.noCollision.execute hv query).failed _ heq key rfl

section
attribute [local instance] Pattern.Engine.plain

/-- The last member is filtered out and the gate leaves the first one out, which leaves a blank in the
array only. -/
theorem execute_index_agrees_blank :
    Query.SelectsMembers [⟨"$filter", .single "$value" (.single "$ne" (.ofNat 3))⟩,
      ⟨"$indexedQuery", .single "$includeIf" (.single "$gt" (.ofNat 1))⟩] ∧
    Member.Ascending [⟨"a", .ofNat 1⟩, ⟨"b", .ofNat 2⟩, ⟨"c", .ofNat 3⟩] ∧
    (execute (.object [⟨"a", .ofNat 1⟩, ⟨"b", .ofNat 2⟩, ⟨"c", .ofNat 3⟩])
      (.object [⟨"$filter", .single "$value" (.single "$ne" (.ofNat 3))⟩,
        ⟨"$indexedQuery", .single "$includeIf" (.single "$gt" (.ofNat 1))⟩])).result =
      .ok (some (.object [⟨"b", .ofNat 2⟩])) ∧
    (execute (.object [⟨"a", .ofNat 1⟩, ⟨"b", .ofNat 2⟩, ⟨"c", .ofNat 3⟩])
      (.object (Query.withAsArray [⟨"$filter", .single "$value" (.single "$ne" (.ofNat 3))⟩,
        ⟨"$indexedQuery", .single "$includeIf" (.single "$gt" (.ofNat 1))⟩]))).result =
      .ok (some (.array [.null, .ofNat 2])) ∧
    (Json.object [⟨"a", .ofNat 1⟩, ⟨"b", .ofNat 2⟩, ⟨"c", .ofNat 3⟩]).WellFormed ∧
    ∀ query key, (execute (.object [⟨"a", .ofNat 1⟩, ⟨"b", .ofNat 2⟩, ⟨"c", .ofNat 3⟩])
      query).result ≠ .error (.duplicateKey key) := by
  have hquery : Query.SelectsMembers [⟨"$filter", .single "$value" (.single "$ne" (.ofNat 3))⟩,
      ⟨"$indexedQuery", .single "$includeIf" (.single "$gt" (.ofNat 1))⟩] :=
    ⟨.inl rfl, rfl, rfl, rfl⟩
  have hmembers : Member.Ascending [⟨"a", .ofNat 1⟩, ⟨"b", .ofNat 2⟩, ⟨"c", .ofNat 3⟩] := by
    unfold Member.Ascending
    decide
  have hvalue : (Json.object [⟨"a", .ofNat 1⟩, ⟨"b", .ofNat 2⟩, ⟨"c", .ofNat 3⟩]).WellFormed := by
    refine .object hmembers (List.forall_mem_cons.mpr ⟨.number _, ?_⟩)
    exact List.forall_mem_cons.mpr ⟨.number _, List.forall_mem_singleton.mpr (.number _)⟩
  obtain ⟨-, hagrees⟩ := execute_index_agrees.1 _ hquery _ hmembers
  obtain ⟨kept, index, hkept, hindex, -, -, harray⟩ := hagrees (some (.object [⟨"b", .ofNat 2⟩])) rfl
  have hpassed : (Except.ok [⟨"a", .ofNat 1⟩, ⟨"b", .ofNat 2⟩] : Except Error (List Member)) =
      .ok kept := hkept
  cases hpassed
  cases hindex
  exact ⟨hquery, hmembers, rfl, harray, hvalue, fun query key =>
    execute_index_agrees.2 _ query key hvalue⟩

end

end Sift
