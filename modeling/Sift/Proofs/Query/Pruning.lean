import Mathlib.Data.List.Forall2
import Sift.Proofs.Json.WellFormed
import Sift.Proofs.Pattern.Plain
import Sift.Proofs.Query.Selection
import Sift.Proofs.Sequence.Filter

/-!
# Projections prune

A projection never makes data up. `Json.Prunes r v` says that `r` is what is left of `v`: parts may
be missing, an element that is left out may have its place kept by null, and the members of an
object may have become an array of their values. `execute_prunes` says that whatever a query gives
for a value is what is left of it, and that null is left of nothing but null.

The proof is by induction on the query, for the shapes that it gives (`Projector.Pruning`): a gate
decides whether a value is projected, not what comes of it. The members of the projected value are
looked up by their keys, which is why it has to be well formed.
-/

namespace Sift

mutual

/-- What is left of a value where parts of it are left out. -/
inductive Json.Prunes : Json → Json → Prop where
  /-- All of it. -/
  | refl (v : Json) : Prunes v v
  /-- Elements of an array, in their order. -/
  | array {rs vs : List Json} (parts : List.SublistForall₂ Json.Keeps rs vs) :
      Prunes (.array rs) (.array vs)
  /-- Members of an object, at their keys. -/
  | object {rs vs : List Member} (keys : ∀ m ∈ rs, (Member.lookup m.key vs).isSome)
      (parts : ∀ m ∈ rs, ∀ v, Member.lookup m.key vs = some v → Prunes m.value v) :
      Prunes (.object rs) (.object vs)
  /-- Values of the members of an object, in their order. -/
  | values {rs : List Json} {vs : List Member}
      (parts : List.SublistForall₂ Json.Keeps rs (vs.map Member.value)) :
      Prunes (.array rs) (.object vs)

/-- What stands for a value in an array: what is left of it, or null. -/
inductive Json.Keeps : Json → Json → Prop where
  | blank (v : Json) : Keeps .null v
  | pruned {r v : Json} (h : Json.Prunes r v) : Keeps r v

end

theorem Json.Keeps.refl (v : Json) : v.Keeps v :=
  .pruned (.refl v)

def Member.Prunes (rs vs : List Member) : Prop :=
  ∀ m ∈ rs, ∃ v, lookup m.key vs = some v ∧ m.value.Prunes v

theorem Member.Prunes.nil (vs : List Member) : Prunes [] vs := nofun

theorem Member.Prunes.insert {rs vs : List Member} (h : Prunes rs vs) {key : String} {r v : Json}
    (hlookup : lookup key vs = some v) (hr : r.Prunes v) : Prunes (insert ⟨key, r⟩ rs) vs := by
  intro m hm
  obtain rfl | hm := mem_insert hm
  · exact ⟨v, hlookup, hr⟩
  · exact h m hm

theorem Json.Prunes.of_members {rs vs : List Member} (h : Member.Prunes rs vs) :
    (Json.object rs).Prunes (.object vs) := by
  refine .object (fun m hm => ?_) (fun m hm w hw => ?_)
  · obtain ⟨v, hv, -⟩ := h m hm
    exact Option.isSome_of_eq_some hv
  · obtain ⟨v, hv, hr⟩ := h m hm
    rw [hw] at hv
    cases hv
    exact hr

theorem Except.forall₂_of_mapM {ε α β : Type} {R : β → α → Prop} {f : α → Except ε β}
    {items : List α} (hf : ∀ a ∈ items, ∀ b, f a = .ok b → R b a) {results : List β}
    (h : items.mapM f = .ok results) : List.Forall₂ R results items := by
  have hresults : List.Forall₂ (fun a b => (∀ b, f a = .ok b → R b a) ∧ f a = .ok b) items results :=
    (List.forall₂_and_left items results).mpr ⟨hf, mapM_eq_ok_iff.mp h⟩
  exact (hresults.imp fun a b hab => hab.1 b hab.2).flip

/-! ## Induction over queries -/

/-- What holds of a query as soon as it holds of the queries in it holds of every query. -/
theorem Query.induction {P : Query → Prop} {Q : Projection → Prop}
    (flag : ∀ keep, P (.flag keep)) (unreadable : ∀ source, P (.unreadable source))
    (object : ∀ source gate body, Q body → P (.object source gate body))
    (faulty : ∀ fault, Q (.faulty fault))
    (fields : ∀ fields : List FieldQuery, (∀ field ∈ fields, P field.query) → Q (.fields fields))
    (selection : ∀ filter element indexed asArray, (∀ query ∈ element, P query) →
      (∀ query ∈ indexed, P query) → Q (.selection filter element indexed asArray))
    (query : Query) : P query :=
  @Query.rec P Q (fun field => P field.query) (fun fields => ∀ field ∈ fields, P field.query)
    (fun nested => ∀ query ∈ nested, P query)
    flag unreadable object faulty fields selection (fun _ _ h => h)
    nofun (fun _ _ h hs => List.forall_mem_cons.mpr ⟨h, hs⟩)
    nofun (fun _ h _ hmem => Option.mem_some_iff.mp hmem ▸ h)
    query

theorem FieldQuery.projectors_eq_map (fields : List FieldQuery) :
    FieldQuery.projectors fields =
      fields.map fun field => (field.name, field.query.projector) := by
  induction fields with
  | nil => rfl
  | cons field rest ih =>
    cases field
    rw [FieldQuery.projectors, ih, List.map_cons]

theorem Query.forall_mem_projector? {P : Projector → Prop} {nested : Option Query}
    (h : ∀ query ∈ nested, P query.projector) : ∀ p ∈ Query.projector? nested, P p := by
  cases nested with
  | none => exact nofun
  | some query =>
    intro p hp
    obtain rfl := Option.mem_some_iff.mp hp
    exact h query rfl

/-! ## Shapes -/

namespace Projector

/-- Each shape is what is left of a value, and not null unless the value is. -/
def Pruning (shape : Json → Evaluation Json) : Prop :=
  ∀ v r, v.WellFormed → (shape v).result = .ok r → r.Prunes v ∧ (r = .null → v = .null)

theorem pruning_unless {gated : Bool} {select : Json → Evaluation Json}
    (h : ∀ v r, v.WellFormed → (select v).result = .ok r → r.Prunes v ∧ r ≠ .null) :
    Pruning fun v => if gated || v.isNull then pure v else select v := by
  intro v r hv hr
  dsimp only at hr
  split at hr
  next =>
    cases hr
    exact ⟨.refl v, id⟩
  next =>
    obtain ⟨hprunes, hnull⟩ := h v r hv hr
    exact ⟨hprunes, fun hr => absurd hr hnull⟩

theorem run_prunes {p : Projector} (hp : Pruning p.shape) {v r : Json} (hv : v.WellFormed)
    (h : (p.run v).result = .ok (some r)) : r.Prunes v ∧ (r = .null → v = .null) := by
  unfold run at h
  split at h
  next hnull =>
    cases v with
    | null =>
      cases h
      exact ⟨.refl _, fun _ => rfl⟩
    | _ => exact absurd hnull Bool.false_ne_true
  next => exact hp v r hv ((result_shaped_iff p).mp h).2

theorem runOptional_prunes {p : Option Projector} (hp : ∀ q ∈ p, Pruning q.shape) {v r : Json}
    (hv : v.WellFormed) (h : (runOptional p v).result = .ok (some r)) : r.Prunes v := by
  cases p with
  | none =>
    cases h
    exact .refl v
  | some q => exact (run_prunes (hp q rfl) hv h).1

theorem runOptional_keeps {p : Option Projector} (hp : ∀ q ∈ p, Pruning q.shape) {v : Json}
    {projected : Option Json} (hv : v.WellFormed)
    (h : (runOptional p v).result = .ok projected) : (projected.getD .null).Keeps v := by
  cases projected with
  | none => exact .blank v
  | some r => exact .pruned (runOptional_prunes hp hv h)

/-! ### Elements -/

theorem selectElements_prunes {filter : Option Gate} {element : Option Projector}
    (helement : ∀ p ∈ element, Pruning p.shape) {elements : List Json} {r : Json}
    (hv : (Json.array elements).WellFormed)
    (h : (selectElements filter element elements).result = .ok r) :
    r.Prunes (.array elements) ∧ r ≠ .null := by
  unfold selectElements at h
  obtain ⟨condition, -, h⟩ := Recorded.result_bind_eq_ok.mp h
  obtain ⟨kept, hkept, h⟩ := Recorded.result_bind_eq_ok.mp h
  rw [Sequence.result_filter] at hkept
  have hsub := Sequence.filter_sublist hkept
  cases element with
  | none =>
    cases h
    refine ⟨.array (List.sublistForall₂_iff.mpr ⟨kept, ?_, hsub⟩), nofun⟩
    exact List.forall₂_same.mpr fun v _ => .refl v
  | some p =>
    obtain ⟨projected, hprojected, h⟩ := Recorded.result_bind_eq_ok.mp h
    rw [Recorded.result_mapM] at hprojected
    cases h
    refine ⟨.array (List.sublistForall₂_iff.mpr ⟨kept, ?_, hsub⟩), nofun⟩
    refine Except.forall₂_of_mapM (fun v hmem v' hv' => ?_) hprojected
    obtain ⟨projected, hrun, hv'⟩ := Recorded.result_bind_eq_ok.mp hv'
    cases hv'
    exact runOptional_keeps (p := some p) helement (hv.of_mem (hsub.subset hmem)) hrun

/-! ### Members -/

variable {condition : Option Condition} {indexed : Option Projector}

/-- One member adds at most what stands for its value. -/
theorem addValue_keeps (hindexed : ∀ p ∈ indexed, Pruning p.shape) {values values' : List Json}
    {m : Member} (hm : m.value.WellFormed)
    (h : (addValue condition indexed values m).result = .ok values') :
    values' = values ∨ ∃ r, r.Keeps m.value ∧ values' = values ++ [r] := by
  unfold addValue at h
  obtain h | h := Recorded.result_branch h
  · obtain ⟨projected, hprojected, h⟩ := Recorded.result_bind_eq_ok.mp h
    cases h
    exact .inr ⟨_, runOptional_keeps hindexed hm hprojected, rfl⟩
  · cases h
    exact .inl rfl

theorem addMember_prunes (hindexed : ∀ p ∈ indexed, Pruning p.shape) {index index' : List Member}
    {m : Member} (hm : m.value.WellFormed)
    (h : (addMember condition indexed index m).result = .ok index') :
    index' = index ∨ ∃ r, r.Prunes m.value ∧ index' = Member.insert ⟨m.key, r⟩ index := by
  obtain rfl | ⟨r, -, hprojected, rfl⟩ := addMember_eq_ok h
  · exact .inl rfl
  · exact .inr ⟨r, runOptional_prunes hindexed hm hprojected, rfl⟩

theorem selectMembers_prunes {filter : Option Gate} (hindexed : ∀ p ∈ indexed, Pruning p.shape)
    {asArray : Bool} {members : List Member} {r : Json} (hv : (Json.object members).WellFormed)
    (h : (selectMembers filter indexed asArray members).result = .ok r) :
    r.Prunes (.object members) ∧ r ≠ .null := by
  cases asArray with
  | true =>
    rw [selectMembers_asArray] at h
    obtain ⟨condition, -, h⟩ := Recorded.result_bind_eq_ok.mp h
    obtain ⟨values, hvalues, h⟩ := Recorded.result_bind_eq_ok.mp h
    rw [Recorded.result_foldlM] at hvalues
    cases h
    -- the values stand for members that are among those gone through, in their order
    obtain ⟨kept, hkept, hsub⟩ := Except.foldlM_invariant
      (fun done values => ∃ kept : List Member,
        List.Forall₂ (fun r m => r.Keeps m.value) values kept ∧ kept.Sublist done)
      (fun done m hm values values' hs hadd => by
        obtain ⟨kept, hkept, hsub⟩ := hs
        obtain rfl | ⟨r, hr, rfl⟩ := addValue_keeps hindexed (hv.of_member hm) hadd
        · exact ⟨kept, hkept, hsub.trans (List.sublist_append_left done [m])⟩
        · exact ⟨kept ++ [m], List.rel_append hkept (.cons hr .nil), hsub.append_right [m]⟩)
      ⟨[], .nil, .slnil⟩ hvalues
    refine ⟨.values (List.sublistForall₂_iff.mpr ⟨kept.map Member.value, ?_, hsub.map _⟩), nofun⟩
    exact List.forall₂_map_right_iff.mpr hkept
  | false =>
    rw [selectMembers_asObject] at h
    obtain ⟨condition, -, h⟩ := Recorded.result_bind_eq_ok.mp h
    obtain ⟨index, hindex, h⟩ := Recorded.result_bind_eq_ok.mp h
    rw [Recorded.result_foldlM] at hindex
    cases h
    exact ⟨.of_members (Except.foldlM_invariant
      (fun _ index => Member.Prunes index members) (fun _ m hm index index' hs hadd => by
        obtain rfl | ⟨r, hr, rfl⟩ := addMember_prunes hindexed (hv.of_member hm) hadd
        · exact hs
        · exact hs.insert (Member.lookup_of_mem hv.ascending_members hm) hr)
      (.nil members) hindex), nofun⟩

/-! ### Fields -/

theorem addField_prunes {field : String × Projector} (hfield : Pruning field.2.shape)
    {members index index' : List Member} (hv : (Json.object members).WellFormed)
    (hs : Member.Prunes index members)
    (h : (addField members index field).result = .ok index') : Member.Prunes index' members := by
  rw [result_addField] at h
  obtain ⟨projected, hprojected, rfl⟩ := Except.map_eq_ok.mp h
  cases projected with
  | none => exact hs
  | some r =>
    obtain ⟨v, hlookup, -, hshaped⟩ := projectField_eq_some_iff.mp hprojected
    exact hs.insert hlookup (hfield v r (hv.of_lookup hlookup) hshaped).1

theorem selectFields_prunes {fields : List (String × Projector)}
    (hfields : ∀ field ∈ fields, Pruning field.2.shape) {members : List Member} {r : Json}
    (hv : (Json.object members).WellFormed) (h : (selectFields fields members).result = .ok r) :
    r.Prunes (.object members) ∧ r ≠ .null := by
  rw [selectFields_eq_foldlM] at h
  obtain ⟨index, hindex, h⟩ := Recorded.result_bind_eq_ok.mp h
  rw [Recorded.result_foldlM] at hindex
  cases h
  exact ⟨.of_members (Except.foldlM_invariant
    (fun _ index => Member.Prunes index members)
    (fun _ field hfield _ _ hs hadd => addField_prunes (hfields field hfield) hv hs hadd)
    (.nil members) hindex), nofun⟩

end Projector

/-! ## Queries -/

theorem Query.pruning (query : Query) : Projector.Pruning query.projector.shape := by
  refine Query.induction (P := fun query => Projector.Pruning query.projector.shape)
    (Q := fun body => ∀ source gated, Projector.Pruning (body.shape source gated))
    ?flag ?unreadable ?object ?faulty ?fields ?selection query
  case flag =>
    intro keep v r _ h
    cases h
    exact ⟨.refl v, id⟩
  case unreadable => exact fun _ _ _ _ h => nomatch h
  case object => exact fun source gate _ hbody => hbody source gate.isSome
  case faulty => exact fun _ _ _ _ _ _ h => nomatch h
  case fields =>
    intro fields hfields source gated
    refine Projector.pruning_unless fun v r hv h => ?_
    split at h
    next =>
      refine Projector.selectFields_prunes ?_ hv h
      rw [FieldQuery.projectors_eq_map]
      exact List.forall_mem_map.mpr hfields
    next => exact nomatch h
  case selection =>
    intro filter element indexed asArray helement hindexed source gated
    refine Projector.pruning_unless fun v r hv h => ?_
    split at h
    next =>
      split at h
      · exact Projector.selectElements_prunes (forall_mem_projector? helement) hv h
      · exact nomatch h
    next =>
      split at h
      · exact Projector.selectMembers_prunes (forall_mem_projector? hindexed) hv h
      · exact nomatch h
    next => exact nomatch h

/-- What a query gives for a value is what is left of it, and null only for null. -/
theorem execute_prunes [Pattern.Engine] {v query r : Json} (hv : v.WellFormed)
    (h : (execute v query).result = .ok (some r)) : r.Prunes v ∧ (r = .null → v = .null) :=
  Projector.run_prunes (Query.ofJson query).pruning hv h

section
attribute [local instance] Pattern.Engine.plain

/-- One field is left, a list, and null keeps the place of its first element. -/
theorem execute_prunes_field :
    (Json.object [⟨"list", .array [.ofNat 1, .ofNat 2]⟩, ⟨"rest", .bool true⟩]).WellFormed ∧
      (execute (.object [⟨"list", .array [.ofNat 1, .ofNat 2]⟩, ⟨"rest", .bool true⟩])
        (.object [⟨"list", .object [⟨"$elementQuery",
          .object [⟨"$includeIf", .object [⟨"$gt", .ofNat 1⟩]⟩]⟩]⟩])).result =
        .ok (some (.object [⟨"list", .array [.null, .ofNat 2]⟩])) ∧
      (Json.object [⟨"list", .array [.null, .ofNat 2]⟩]).Prunes
        (.object [⟨"list", .array [.ofNat 1, .ofNat 2]⟩, ⟨"rest", .bool true⟩]) ∧
      (Json.object [⟨"list", .array [.null, .ofNat 2]⟩] = .null →
        Json.object [⟨"list", .array [.ofNat 1, .ofNat 2]⟩, ⟨"rest", .bool true⟩] = .null) := by
  have hv : (Json.object [⟨"list", .array [.ofNat 1, .ofNat 2]⟩,
      ⟨"rest", .bool true⟩]).WellFormed := by
    refine .object (List.pairwise_pair.mpr (by decide)) ?_
    refine List.forall_mem_cons.mpr ⟨.array ?_, List.forall_mem_singleton.mpr (.bool true)⟩
    exact List.forall_mem_cons.mpr ⟨.number _, List.forall_mem_singleton.mpr (.number _)⟩
  have h : (execute (.object [⟨"list", .array [.ofNat 1, .ofNat 2]⟩, ⟨"rest", .bool true⟩])
      (.object [⟨"list", .object [⟨"$elementQuery",
        .object [⟨"$includeIf", .object [⟨"$gt", .ofNat 1⟩]⟩]⟩]⟩])).result =
      .ok (some (.object [⟨"list", .array [.null, .ofNat 2]⟩])) := rfl
  exact ⟨hv, h, execute_prunes hv h⟩

end

end Sift
