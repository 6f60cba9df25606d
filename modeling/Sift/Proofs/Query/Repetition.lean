import Sift.Proofs.Pattern.Plain
import Sift.Proofs.Query.Levels
import Sift.Proofs.Query.Members
import Sift.Proofs.Query.Pruning
import Sift.Proofs.Sequence.Filter

/-!
# Projecting twice

A projected value is projected to itself by the same query (`execute_repeats`). This holds of queries
whose objects select in one way: what a filter kept need not be what it keeps after a projection, and
an array that was made of an object is no object any more. A gate makes up for either, since what
passes it is kept whole.

What is projected passes the gate of its query again and is given its own shape
(`Projector.Repeats`). That carries over from the elements, members and fields of a value to the value:
the second run meets what the first run made of each, and nulls where it left something out.
-/

namespace Sift

/-! ## Projectors -/

namespace Projector

/-- What is projected is included again, and given its own shape. -/
def Repeats (p : Projector) : Prop :=
  ∀ v r, (p.passes v).result = .ok true → (p.shape v).result = .ok r →
    (p.passes r).result = .ok true ∧ (p.shape r).result = .ok r

/-- What has the shape is given the shape. -/
def Settles (shape : Json → Evaluation Json) : Prop :=
  ∀ v r, (shape v).result = .ok r → (shape r).result = .ok r

theorem Settles.unless {select : Json → Evaluation Json} (h : Settles select) (gated : Bool) :
    Settles fun v => if gated || v.isNull then pure v else select v := by
  intro v r hr
  dsimp only at hr ⊢
  split at hr
  next hwhole =>
    cases hr
    rw [if_pos hwhole]
    rfl
  next =>
    split
    · rfl
    · exact h v r hr

theorem Repeats.run {p : Projector} (hp : p.Repeats) {v r : Json}
    (h : (p.run v).result = .ok (some r)) : (p.run r).result = .ok (some r) := by
  unfold Projector.run at h ⊢
  by_cases hnull : r.isNull = true
  · cases r with
    | null => rfl
    | _ => cases hnull
  · rw [if_neg hnull]
    split at h
    next =>
      cases h
      exact absurd rfl hnull
    next =>
      obtain ⟨hpassed, hshaped⟩ := (result_shaped_iff p).mp h
      exact (result_shaped_iff p).mpr (hp v r hpassed hshaped)

theorem Repeats.runOptional {p : Option Projector} (hp : ∀ q ∈ p, q.Repeats) {v r : Json}
    (h : (runOptional p v).result = .ok (some r)) :
    (Projector.runOptional p r).result = .ok (some r) := by
  cases p with
  | none => rfl
  | some q => exact (hp q rfl).run h

/-! ### Elements -/

section
variable {filter : Option Gate} {element indexed : Option Projector}

theorem result_selectElements_project (p : Projector) (elements : List Json) :
    (selectElements none (some p) elements).result =
      elements.mapM (fun v => (p.run v).result.map fun projected => projected.getD .null) >>=
        fun projected => .ok (.array projected) := by
  have hproject : ∀ v, (p.run v >>= fun projected =>
      pure (projected.getD .null) : Evaluation Json).result =
        (p.run v).result.map fun projected => projected.getD .null := by
    intro v
    rw [Recorded.result_bind]
    cases (p.run v).result <;> rfl
  rw [selectElements_project, keepElements_all, pure_bind, projectElements, Recorded.result_bind,
    Recorded.result_mapM]
  simp only [hproject]
  rfl

/-- An element that is projected is projected to itself, and so is the null in place of one that is
not. -/
theorem selectElements_again (alone : filter.isSome → element = none)
    (helement : ∀ p ∈ element, p.Repeats) {elements : List Json} {r : Json}
    (h : (selectElements filter element elements).result = .ok r) :
    ∃ items, r = .array items ∧ (selectElements filter element items).result = .ok r := by
  cases element with
  | none =>
    unfold selectElements at h ⊢
    obtain ⟨condition, hcondition, h⟩ := Recorded.result_bind_eq_ok.mp h
    obtain ⟨kept, hkept, h⟩ := Recorded.result_bind_eq_ok.mp h
    cases h
    refine ⟨kept, rfl, Recorded.result_bind_eq_ok.mpr ⟨condition, hcondition, ?_⟩⟩
    refine Recorded.result_bind_eq_ok.mpr ⟨kept, ?_, rfl⟩
    rw [Sequence.result_filter] at hkept ⊢
    exact Sequence.filter_filter hkept
  | some p =>
    have hfilter : filter = none := by
      cases filter with
      | none => rfl
      | some gate => exact absurd (alone rfl) (Option.some_ne_none p)
    subst hfilter
    rw [result_selectElements_project] at h
    obtain ⟨items, hitems, h⟩ := Except.bind_eq_ok.mp h
    cases h
    refine ⟨items, rfl, ?_⟩
    rw [result_selectElements_project]
    refine Except.bind_eq_ok.mpr ⟨items, Except.mapM_mapM (fun v _ item hitem => ?_) hitems, rfl⟩
    obtain ⟨projected, hrun, rfl⟩ := Except.map_eq_ok.mp hitem
    cases projected with
    | none => rfl
    | some r =>
      have hagain := (helement p rfl).run hrun
      exact Except.map_eq_ok.mpr ⟨some r, hagain, rfl⟩

/-! ### Members -/

/-- The member passes the filter and is projected to itself. -/
structure Settled (condition : Option Condition) (indexed : Option Projector) (m : Member) :
    Prop where
  passes : (keeps condition m).result = .ok true
  projects : (runOptional indexed m.value).result = .ok (some m.value)

/-- What becomes of a member is settled: it is the member itself, or no filter looks at it. -/
theorem settled_of_projected (alone : filter.isSome → indexed = none)
    (hindexed : ∀ p ∈ indexed, p.Repeats) {condition : Option Condition}
    (hcondition : (readGate filter).result = .ok condition) {m : Member} {v : Json}
    (hkeeps : (keeps condition m).result = .ok true)
    (hprojected : (runOptional indexed m.value).result = .ok (some v)) :
    Settled condition indexed ⟨m.key, v⟩ := by
  have hagain := Repeats.runOptional hindexed hprojected
  cases filter with
  | none =>
    cases hcondition
    exact ⟨rfl, hagain⟩
  | some gate =>
    obtain rfl := alone rfl
    cases hprojected
    obtain ⟨key, v⟩ := m
    exact ⟨hkeeps, rfl⟩

theorem outcomes_of_settled {condition : Option Condition}
    (hcondition : (readGate filter).result = .ok condition) {members : List Member}
    (hsettled : ∀ m ∈ members, Settled condition indexed m) :
    outcomes filter indexed members = .ok (members.map fun m => (m.key, some m.value)) := by
  refine outcomes_eq_ok_iff.mpr ⟨members, ?_, ?_⟩
  · refine Except.bind_eq_ok.mpr ⟨condition, hcondition, ?_⟩
    exact Sequence.filterFrom_eq_self (fun m hm => (hsettled m hm).passes) 0
  · rw [Except.mapM_eq_ok_iff, List.forall₂_map_right_iff, List.forall₂_same]
    intro m hm
    exact Except.map_eq_ok.mpr ⟨some m.value, (hsettled m hm).projects, rfl⟩

theorem selectMembers_again (alone : filter.isSome → indexed = none)
    (hindexed : ∀ p ∈ indexed, p.Repeats) {members : List Member} {r : Json}
    (h : (selectMembers filter indexed false members).result = .ok r) :
    ∃ index, r = .object index ∧ (selectMembers filter indexed false index).result = .ok r := by
  rw [selectMembers_asObject] at h
  obtain ⟨condition, hcondition, h⟩ := Recorded.result_bind_eq_ok.mp h
  obtain ⟨index, hindex, h⟩ := Recorded.result_bind_eq_ok.mp h
  cases h
  rw [Recorded.result_foldlM] at hindex
  obtain ⟨hascending, hsettled⟩ := Except.foldlM_invariant
    (fun _ index => Member.Ascending index ∧ ∀ m ∈ index, Settled condition indexed m)
    (fun _ m _ index index' hindex hadd => by
      obtain rfl | ⟨v, hkeeps, hprojected, rfl⟩ := addMember_eq_ok hadd
      · exact hindex
      · refine ⟨hindex.1.insert _, fun n hn => ?_⟩
        obtain rfl | hn := Member.mem_insert hn
        · exact settled_of_projected alone hindexed hcondition hkeeps hprojected
        · exact hindex.2 n hn)
    ⟨.nil, nofun⟩ hindex
  refine ⟨index, rfl, ?_⟩
  rw [result_selectMembers filter indexed false hascending, outcomes_of_settled hcondition hsettled]
  exact congrArg (fun rest => Except.ok (Json.object rest)) (filterMap_present_whole index)

end

/-! ### Fields -/

section
variable {members index : List Member} {field : String × Projector}
  {fields : List (String × Projector)}

theorem projectField_again (hfield : field.2.Repeats)
    (h : (projectField members field).result = .ok (Member.lookup field.1 index)) :
    (projectField index field).result = .ok (Member.lookup field.1 index) := by
  cases hlookup : Member.lookup field.1 index with
  | none =>
    unfold projectField
    rw [hlookup]
    rfl
  | some r =>
    rw [hlookup] at h
    obtain ⟨v, -, hpassed, hshaped⟩ := projectField_eq_some_iff.mp h
    obtain ⟨hpasses, hshape⟩ := hfield v r hpassed hshaped
    exact projectField_eq_some_iff.mpr ⟨r, hlookup, hpasses, hshape⟩

theorem selectFields_again (hnames : (fields.map Prod.fst).Nodup)
    (hfields : ∀ field ∈ fields, field.2.Repeats) {r : Json}
    (h : (selectFields fields members).result = .ok r) :
    ∃ index, r = .object index ∧ (selectFields fields index).result = .ok r := by
  rw [selectFields_eq_foldlM] at h
  obtain ⟨index, hindex, h⟩ := Recorded.result_bind_eq_ok.mp h
  cases h
  rw [Recorded.result_foldlM] at hindex
  obtain ⟨hprojected, -⟩ := foldlM_addField hnames (fun _ _ => rfl) hindex
  refine ⟨index, rfl, ?_⟩
  rw [selectFields_eq_foldlM]
  refine Recorded.result_bind_eq_ok.mpr ⟨index, ?_, rfl⟩
  rw [Recorded.result_foldlM, ← hindex]
  refine Except.foldlM_congr (fun field hmem start => ?_) []
  have hfirst := hprojected field hmem
  have hsecond := projectField_again (hfields field hmem) hfirst
  rw [result_addField, result_addField, hfirst, hsecond]

end

end Projector

/-! ## Queries -/

theorem Projection.shape_gated {body : Projection} {source v r : Json}
    (h : (body.shape source true v).result = .ok r) : r = v := by
  cases body with
  | faulty fault => cases h
  | fields fields =>
    cases h
    rfl
  | selection filter element indexed asArray =>
    cases h
    rfl

theorem Query.Repeatable.repeats (query : Query) : query.Repeatable → query.projector.Repeats := by
  refine Query.induction (P := fun query => query.Repeatable → query.projector.Repeats)
    (Q := fun body => body.Repeatable → ∀ source, Projector.Settles (body.shape source false))
    ?flag ?unreadable ?object ?faulty ?fields ?selection query
  case flag =>
    intro keep _ v r hpasses hshape
    cases hshape
    exact ⟨hpasses, rfl⟩
  case unreadable => exact fun _ _ _ _ _ h => nomatch h
  case object =>
    intro source gate body hbody hrepeatable v r hpasses hshape
    cases hrepeatable with
    | gated _ gate _ =>
      obtain rfl : r = v := Projection.shape_gated hshape
      exact ⟨hpasses, hshape⟩
    | ungated _ h => exact ⟨rfl, hbody h source v r hshape⟩
  case faulty => exact fun _ _ _ _ _ h => nomatch h
  case fields =>
    intro fields ih hrepeatable source
    cases hrepeatable with
    | fields hnames hfields =>
      refine Projector.Settles.unless (fun v r h => ?_) false
      split at h
      next members =>
        rw [FieldQuery.projectors_eq_map] at h ⊢
        have hrepeats : ∀ field ∈ fields.map fun field => (field.name, field.query.projector),
            field.2.Repeats :=
          List.forall_mem_map.mpr fun field hmem => ih field hmem (hfields field hmem)
        obtain ⟨index, rfl, hagain⟩ :=
          Projector.selectFields_again (by rwa [List.map_map]) hrepeats h
        exact hagain
      next => exact nomatch h
  case selection =>
    intro filter element indexed asArray helement hindexed hrepeatable source
    cases hrepeatable with
    | selection alone he hi =>
      have hprojects := forall_mem_projector? fun query hq => helement query hq (he query hq)
      have hindexes := forall_mem_projector? fun query hq => hindexed query hq (hi query hq)
      refine Projector.Settles.unless (fun v r h => ?_) false
      split at h
      next elements =>
        split at h
        next hselects =>
          obtain ⟨items, rfl, hagain⟩ := Projector.selectElements_again
            (fun hfilter => by rw [(alone hfilter).1]; rfl) hprojects h
          dsimp only
          rw [if_pos hselects]
          exact hagain
        next => exact nomatch h
      next members =>
        split at h
        next hselects =>
          obtain ⟨index, rfl, hagain⟩ := Projector.selectMembers_again
            (fun hfilter => by rw [(alone hfilter).2]; rfl) hindexes h
          dsimp only
          rw [if_pos hselects]
          exact hagain
        next => exact nomatch h
      next => exact nomatch h

/-- What a query gives for a value it gives for itself, if no query object in it without a gate filters
what it projects, or makes an array of an object. -/
theorem execute_repeats [Pattern.Engine] {query : Json} (hquery : query.WellFormed)
    (honce : ∀ level ∈ Query.levels query, Query.SelectsOnce level) {v r : Json}
    (h : (execute v query).result = .ok (some r)) : (execute r query).result = .ok (some r) := by
  have hrepeatable := Query.repeatable_ofJson query hquery honce
  exact (Query.Repeatable.repeats _ hrepeatable).run h

section
attribute [local instance] Pattern.Engine.plain

/-- A null keeps the place of the element that its gate does not let pass, and is passed on by the
second run. The member that is filtered out is not there any more. -/
theorem execute_repeats_nested :
    (Json.object [⟨"list", .object [⟨"$elementQuery",
        .object [⟨"$includeIf", .object [⟨"$gt", .ofNat 1⟩]⟩]⟩]⟩,
      ⟨"object", .object [⟨"$filter", .object [⟨"$value", .ofNat 4⟩]⟩]⟩]).WellFormed ∧
    (∀ level ∈ Query.levels (.object [⟨"list", .object [⟨"$elementQuery",
        .object [⟨"$includeIf", .object [⟨"$gt", .ofNat 1⟩]⟩]⟩]⟩,
      ⟨"object", .object [⟨"$filter", .object [⟨"$value", .ofNat 4⟩]⟩]⟩]), Query.SelectsOnce level) ∧
    (execute (.object [⟨"list", .array [.ofNat 1, .ofNat 2]⟩,
        ⟨"object", .object [⟨"a", .ofNat 3⟩, ⟨"b", .ofNat 4⟩]⟩, ⟨"rest", .bool true⟩])
      (.object [⟨"list", .object [⟨"$elementQuery",
          .object [⟨"$includeIf", .object [⟨"$gt", .ofNat 1⟩]⟩]⟩]⟩,
        ⟨"object", .object [⟨"$filter", .object [⟨"$value", .ofNat 4⟩]⟩]⟩])).result =
      .ok (some (.object [⟨"list", .array [.null, .ofNat 2]⟩,
        ⟨"object", .object [⟨"b", .ofNat 4⟩]⟩])) ∧
    (execute (.object [⟨"list", .array [.null, .ofNat 2]⟩, ⟨"object", .object [⟨"b", .ofNat 4⟩]⟩])
      (.object [⟨"list", .object [⟨"$elementQuery",
          .object [⟨"$includeIf", .object [⟨"$gt", .ofNat 1⟩]⟩]⟩]⟩,
        ⟨"object", .object [⟨"$filter", .object [⟨"$value", .ofNat 4⟩]⟩]⟩])).result =
      .ok (some (.object [⟨"list", .array [.null, .ofNat 2]⟩,
        ⟨"object", .object [⟨"b", .ofNat 4⟩]⟩])) := by
  have hsingle : ∀ key (v : Json), v.WellFormed → (Json.object [⟨key, v⟩]).WellFormed :=
    fun key v hv => .object (List.pairwise_singleton _ _) (List.forall_mem_singleton.mpr hv)
  have hquery : (Json.object [⟨"list", .object [⟨"$elementQuery",
        .object [⟨"$includeIf", .object [⟨"$gt", .ofNat 1⟩]⟩]⟩]⟩,
      ⟨"object", .object [⟨"$filter", .object [⟨"$value", .ofNat 4⟩]⟩]⟩]).WellFormed := by
    refine .object (List.pairwise_pair.mpr (by decide)) ?_
    refine List.forall_mem_cons.mpr ⟨?_, List.forall_mem_singleton.mpr ?_⟩
    · exact hsingle _ _ (hsingle _ _ (hsingle _ _ (.number _)))
    · exact hsingle _ _ (hsingle _ _ (.number _))
  have honce : ∀ level ∈ Query.levels (.object [⟨"list", .object [⟨"$elementQuery",
        .object [⟨"$includeIf", .object [⟨"$gt", .ofNat 1⟩]⟩]⟩]⟩,
      ⟨"object", .object [⟨"$filter", .object [⟨"$value", .ofNat 4⟩]⟩]⟩]),
      Query.SelectsOnce level := by
    decide
  have hfirst : (execute (.object [⟨"list", .array [.ofNat 1, .ofNat 2]⟩,
        ⟨"object", .object [⟨"a", .ofNat 3⟩, ⟨"b", .ofNat 4⟩]⟩, ⟨"rest", .bool true⟩])
      (.object [⟨"list", .object [⟨"$elementQuery",
          .object [⟨"$includeIf", .object [⟨"$gt", .ofNat 1⟩]⟩]⟩]⟩,
        ⟨"object", .object [⟨"$filter", .object [⟨"$value", .ofNat 4⟩]⟩]⟩])).result =
      .ok (some (.object [⟨"list", .array [.null, .ofNat 2]⟩,
        ⟨"object", .object [⟨"b", .ofNat 4⟩]⟩])) := rfl
  exact ⟨hquery, honce, hfirst, execute_repeats hquery honce hfirst⟩

end

end Sift
