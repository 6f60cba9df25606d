import Sift.Proofs.Condition.Faults
import Sift.Proofs.Condition.Grounding
import Sift.Proofs.Query.Pruning
import Sift.Proofs.Query.Reading

/-!
# How queries fail

Whatever a query is, its conditions are read and tested, and it adds three errors of its own. A set of
errors that has these is one that projecting fails with only (`Confinement.execute`), and all that is
noted on the way happens where something is. Of a key that comes up twice this is asked only where the
keys of an object need not ascend.

This rests on the gates of a query, which are readings of conditions (`Query.Read`): their faults are
those of conditions, not of tests.
-/

namespace Sift

/-! ## Gates -/

section
variable [Pattern.Engine]

/-- The gate is what was read for a condition. -/
def Gate.IsReading (gate : Gate) : Prop :=
  ∃ source, gate = Condition.ofJson source

mutual

/-- The gates of the query are readings. -/
inductive Query.Read : Query → Prop where
  | flag (keep : Bool) : Query.Read (.flag keep)
  | unreadable (source : Json) : Query.Read (.unreadable source)
  | object (source : Json) {gate : Option Gate} {body : Projection}
      (hgate : ∀ g ∈ gate, g.IsReading) (hbody : body.Read) :
      Query.Read (.object source gate body)

inductive Projection.Read : Projection → Prop where
  | faulty (fault : QueryFault) : Projection.Read (.faulty fault)
  | fields {fields : List FieldQuery} (h : ∀ field ∈ fields, field.query.Read) :
      Projection.Read (.fields fields)
  | selection {filter : Option Gate} {element indexed : Option Query} (asArray : Bool)
      (hfilter : ∀ g ∈ filter, g.IsReading) (helement : ∀ query ∈ element, query.Read)
      (hindexed : ∀ query ∈ indexed, query.Read) :
      Projection.Read (.selection filter element indexed asArray)

end

namespace Query

structure Parts.Read (parts : Parts) : Prop where
  filter : ∀ g ∈ parts.filter, g.IsReading
  element : ∀ query ∈ parts.element, query.Read
  indexed : ∀ query ∈ parts.indexed, query.Read
  fields : ∀ field ∈ parts.fields, field.query.Read

theorem Parts.read_empty : Parts.empty.Read where
  filter _ h := by cases h
  element _ h := by cases h
  indexed _ h := by cases h
  fields _ h := by cases h

theorem Parts.Read.toProjection {parts : Parts} (h : parts.Read) : parts.toProjection.Read := by
  unfold Parts.toProjection
  split
  · exact .faulty _
  · split
    · exact .faulty _
    · split
      · exact .selection _ h.filter h.element h.indexed
      · exact .fields h.fields

theorem Parts.Read.add {m : Member} {add : Parts → Parts} {parts : Parts} (h : Parts.Adds m add)
    (hm : (ofJson m.value).Read) (ho : parts.Read) : (add parts).Read := by
  have hquery : ∀ query ∈ some (ofJson m.value), query.Read := by
    rintro _ ⟨⟩
    exact hm
  cases h with
  | gate v => exact ho
  | filter v =>
    have hgate : ∀ g ∈ some (Condition.ofJson v), Gate.IsReading g := by
      rintro _ ⟨⟩
      exact ⟨v, rfl⟩
    exact { ho with filter := hgate }
  | element v => exact { ho with element := hquery }
  | indexed v => exact { ho with indexed := hquery }
  | asArray b => exact ⟨ho.filter, ho.element, ho.indexed, ho.fields⟩
  | field v _ => exact { ho with fields := List.forall_mem_cons.mpr ⟨hm, ho.fields⟩ }

theorem read_partsOf {members : List Member} (h : ∀ m ∈ members, (ofJson m.value).Read) :
    ∀ parts, partsOf members = .ok parts → parts.Read := by
  induction members with
  | nil =>
    rintro _ ⟨⟩
    exact Parts.read_empty
  | cons m rest ih =>
    obtain ⟨hm, hrest⟩ := List.forall_mem_cons.mp h
    intro parts hparts
    obtain ⟨add, others, hadd, hothers, rfl⟩ := partsOf_cons_eq_ok hparts
    exact (ih hrest others hothers).add hadd hm

theorem read_ofJson (v : Json) : (ofJson v).Read := by
  refine (Json.withParts (P := fun v => (ofJson v).Read) (fun v hv => ?literal)
    (fun members ih => ?object) v).self
  case literal =>
    cases v with
    | object members => exact absurd rfl (hv members)
    | bool keep => exact .flag keep
    | _ => exact .unreadable _
  case object =>
    rw [ofJson]
    refine .object _ (fun g hg => ?_) ?_
    · obtain ⟨source, -, rfl⟩ := Option.map_eq_some_iff.mp hg
      exact ⟨source, rfl⟩
    · split
      next parts hparts =>
        exact (read_partsOf (fun m hm => (ih m hm).self) parts hparts).toProjection
      next => exact .faulty _

end Query

theorem Gate.IsReading.failsOnly {gate : Gate} (h : gate.IsReading) :
    FailsOnly Error.OfReading gate := by
  obtain ⟨source, rfl⟩ := h
  exact Condition.failsOnly_ofJson source

end

/-! ## Confinement -/

abbrev Event.IsPresent (event : Event) : Prop :=
  event.cursor.isPresent = true

/-- The errors `Q` are those of conditions and queries, for values in `V`, which are closed under taking
them apart. -/
structure Confinement (V : Json → Prop) (Q : Error → Prop) : Prop where
  element : ∀ elements, V (.array elements) → ∀ v ∈ elements, V v
  member : ∀ members, V (.object members) → ∀ m ∈ members, V m.value
  reading : ∀ e, e.OfReading → Q e
  test : ∀ e, e.OfTest → Q e
  unknownQuery : ∀ v query, Q (.unknownQuery v query)
  invalidQuery : ∀ fault, Q (.invalidQuery fault)
  duplicateKey : ∀ members, V (.object members) →
    Member.Ascending members ∨ ∀ key, Q (.duplicateKey key)

structure Projector.Confined (V : Json → Prop) (Q : Error → Prop) (p : Projector) : Prop where
  passes : ∀ v, V v → Recorded.Confined Event.IsPresent Q (p.passes v)
  shape : ∀ v, V v → Recorded.Confined Event.IsPresent Q (p.shape v)

namespace Projector

variable {V : Json → Prop} {Q : Error → Prop}

theorem Confined.run {p : Projector} (hp : p.Confined V Q) {v : Json} (hv : V v) :
    Recorded.Confined Event.IsPresent Q (p.run v) := by
  unfold Projector.run
  split
  · exact .pure _
  · exact (hp.passes v hv).branch ((hp.shape v hv).bind fun shaped _ => .pure _) (.pure _)

theorem confined_runOptional {p : Option Projector} (hp : ∀ q ∈ p, q.Confined V Q) {v : Json}
    (hv : V v) : Recorded.Confined Event.IsPresent Q (runOptional p v) := by
  cases p with
  | none => exact .pure _
  | some q => exact (hp q rfl).run hv

theorem confined_fail {α : Type} {e : Error} (h : Q e) :
    Recorded.Confined Event.IsPresent Q (fail e : Evaluation α) :=
  .ofExcept (.error h)

/-- Where a value is not kept whole, what is selected decides. -/
theorem confined_unless {gated : Bool} {select : Json → Evaluation Json}
    (h : ∀ v, V v → Recorded.Confined Event.IsPresent Q (select v)) (v : Json) (hv : V v) :
    Recorded.Confined Event.IsPresent Q (if gated || v.isNull then pure v else select v) := by
  split
  · exact .pure _
  · exact h v hv

theorem confined_selectFields {fields : List (String × Projector)}
    (hfields : ∀ field ∈ fields, field.2.Confined V Q) {members : List Member}
    (hmembers : ∀ m ∈ members, V m.value) :
    Recorded.Confined Event.IsPresent Q (selectFields fields members) := by
  rw [selectFields_eq_foldlM]
  refine (Recorded.Confined.foldlM (fun field hmem index => ?_) []).bind fun _ _ => .pure _
  have hfield := hfields field hmem
  unfold addField
  split
  · exact .pure _
  next v hlookup =>
    have hv : V v := hmembers _ (Member.mem_of_lookup hlookup)
    exact (hfield.passes v hv).branch ((hfield.shape v hv).bind fun _ _ => .pure _) (.pure _)

end Projector

namespace Confinement

open Projector

variable {V : Json → Prop} {Q : Error → Prop}

theorem condition (h : Confinement V Q) (condition : Condition) {c : Cursor}
    (hc : c.isPresent = true) : Recorded.Confined Event.IsPresent Q (condition.test c) :=
  (condition.grounded c hc).mono (fun _ hevent => hevent.1) h.test

theorem keeps (h : Confinement V Q) (condition : Option Condition) (m : Member) :
    Recorded.Confined Event.IsPresent Q (keeps condition m) := by
  cases condition with
  | none => exact .pure _
  | some condition => exact h.condition condition rfl

theorem addMember (h : Confinement V Q) {indexed : Option Projector}
    (hindexed : ∀ p ∈ indexed, p.Confined V Q) (condition : Option Condition) {index : List Member}
    {m : Member} (hm : V m.value)
    (hnew : (∀ n ∈ index, n.key < m.key) ∨ ∀ key, Q (.duplicateKey key)) :
    Recorded.Confined Event.IsPresent Q (addMember condition indexed index m) := by
  refine (h.keeps condition m).branch ?_ (.pure _)
  refine (confined_runOptional hindexed hm).bind fun projected _ => ?_
  split
  next => exact .pure _
  next =>
    split
    next hfound =>
      obtain hlast | hkey := hnew
      · exact absurd hfound (Member.not_isSome_lookup_of_lt hlast)
      · exact confined_fail (hkey m.key)
    next => exact .pure _

variable [Pattern.Engine]

theorem readGate (h : Confinement V Q) {gate : Option Gate} (hgate : ∀ g ∈ gate, g.IsReading) :
    Recorded.Confined Event.IsPresent Q (readGate gate) := by
  cases gate with
  | none => exact .pure _
  | some g =>
    have hfails := (hgate g rfl).failsOnly.mono h.reading
    exact (Recorded.Confined.ofExcept hfails).bind fun _ _ => .pure _

theorem passesGate (h : Confinement V Q) {gate : Option Gate} (hgate : ∀ g ∈ gate, g.IsReading)
    (v : Json) : Recorded.Confined Event.IsPresent Q (passesGate gate v) := by
  refine (h.readGate hgate).bind fun condition _ => ?_
  cases condition with
  | none => exact .pure _
  | some condition => exact h.condition condition rfl

theorem selectElements (h : Confinement V Q) {filter : Option Gate} {element : Option Projector}
    (hfilter : ∀ g ∈ filter, g.IsReading) (helement : ∀ p ∈ element, p.Confined V Q)
    {elements : List Json} (helements : ∀ v ∈ elements, V v) :
    Recorded.Confined Event.IsPresent Q (selectElements filter element elements) := by
  refine (h.readGate hfilter).bind fun condition _ => ?_
  refine (Recorded.Confined.filter fun v _ _ => ?_).bind fun kept hkept => ?_
  · cases condition with
    | none => exact .pure _
    | some condition => exact h.condition condition rfl
  · rw [Sequence.result_filter] at hkept
    have hsub := Sequence.filter_sublist hkept
    cases element with
    | none => exact .pure _
    | some p =>
      refine (Recorded.Confined.mapM fun v hv => ?_).bind fun _ _ => .pure _
      exact ((helement p rfl).run (helements v (hsub.subset hv))).bind fun _ _ => .pure _

theorem selectMembers (h : Confinement V Q) {filter : Option Gate} {indexed : Option Projector}
    (hfilter : ∀ g ∈ filter, g.IsReading) (hindexed : ∀ p ∈ indexed, p.Confined V Q)
    (asArray : Bool) {members : List Member} (hmembers : V (.object members)) :
    Recorded.Confined Event.IsPresent Q (selectMembers filter indexed asArray members) := by
  have hvalue := h.member members hmembers
  cases asArray with
  | true =>
    rw [selectMembers_asArray]
    refine (h.readGate hfilter).bind fun condition _ => ?_
    refine (Recorded.Confined.foldlM (fun m hm values => ?_) []).bind fun _ _ => .pure _
    refine (h.keeps condition m).branch ?_ (.pure _)
    exact (confined_runOptional hindexed (hvalue m hm)).bind fun _ _ => .pure _
  | false =>
    rw [selectMembers_asObject]
    refine (h.readGate hfilter).bind fun condition _ => ?_
    obtain hascending | hkey := h.duplicateKey members hmembers
    · refine (Recorded.Confined.foldlM_invariant Member.Precedes (fun index m rest hm hI =>
        ⟨h.addMember hindexed condition (hvalue m hm) (.inl hI.last), fun next hnext => ?_⟩)
          hascending.precedes).bind fun _ _ => .pure _
      refine hI.next fun n hn => ?_
      obtain rfl | ⟨v, -, -, rfl⟩ := addMember_eq_ok hnext
      · exact .inr hn
      · exact (Member.mem_insert hn).imp_left fun heq => by rw [heq]
    · refine (Recorded.Confined.foldlM (fun m hm index => ?_) []).bind fun _ _ => .pure _
      exact h.addMember hindexed condition (hvalue m hm) (.inr hkey)

/-! ## Queries -/

theorem query (h : Confinement V Q) (query : Query) : query.Read → query.projector.Confined V Q := by
  refine Query.induction (P := fun query => query.Read → query.projector.Confined V Q)
    (Q := fun body => body.Read → ∀ source gated v, V v →
      Recorded.Confined Event.IsPresent Q (body.shape source gated v))
    ?flag ?unreadable ?object ?faulty ?fields ?selection query
  case flag => exact fun keep _ => ⟨fun _ _ => .pure _, fun _ _ => .pure _⟩
  case unreadable =>
    exact fun source _ => ⟨fun _ _ => .pure _, fun v _ => confined_fail (h.unknownQuery v source)⟩
  case object =>
    intro source gate body hbody hread
    cases hread with
    | object _ hgate hb =>
      exact ⟨fun v _ => h.passesGate hgate v, hbody hb source gate.isSome⟩
  case faulty => exact fun fault _ _ _ _ _ => confined_fail (h.invalidQuery fault)
  case fields =>
    intro fields ih hread source gated
    cases hread with
    | fields hfields =>
      refine confined_unless fun v hv => ?_
      split
      next members =>
        refine confined_selectFields ?_ (h.member members hv)
        rw [FieldQuery.projectors_eq_map]
        exact List.forall_mem_map.mpr fun field hmem => ih field hmem (hfields field hmem)
      next => exact confined_fail (h.unknownQuery _ _)
  case selection =>
    intro filter element indexed asArray helement hindexed hread source gated
    cases hread with
    | selection _ hf he hi =>
      have helement := Query.forall_mem_projector? fun query hq => helement query hq (he query hq)
      have hindexed := Query.forall_mem_projector? fun query hq => hindexed query hq (hi query hq)
      refine confined_unless fun v hv => ?_
      split
      next elements =>
        split
        · exact h.selectElements hf helement (h.element elements hv)
        · exact confined_fail (h.unknownQuery _ _)
      next members =>
        split
        · exact h.selectMembers hf hindexed asArray hv
        · exact confined_fail (h.unknownQuery _ _)
      next => exact confined_fail (h.unknownQuery _ _)

/-- Whatever the query, projecting a value fails with these errors only. -/
theorem execute (h : Confinement V Q) {v : Json} (hv : V v) (query : Json) :
    Recorded.Confined Event.IsPresent Q (execute v query) :=
  (h.query _ (Query.read_ofJson query)).run hv

end Confinement

end Sift
