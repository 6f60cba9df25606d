import Sift.Proofs.Condition.Grammar
import Sift.Proofs.Condition.Single
import Sift.Proofs.Pattern.Plain
import Sift.Proofs.Query.Pruning
import Sift.Proofs.Query.Reading

/-!
# Fields one by one

A query object whose keys are names of fields projects each of them as the query at its name projects a
value of its own, and the first field that fails decides (`execute_fields`). Null is the exception: on
its own it is passed on whatever the query is, while as a field it is left out if the query is `false` or
has a gate that null does not pass (`Query.nullOutcome`), and faults of the query come up.
-/

namespace Sift

section
variable [Pattern.Engine]

namespace Query

/-! ## Null as a field -/

def admits (query : List Member) (v : Json) : Except Error Bool :=
  match Member.lookup gateKey query with
  | none => .ok true
  | some condition => (isMatch v condition).result

/-- What becomes of a field that is null: it is kept as it is, or left out. -/
def nullOutcome : Json → Except Error (Option Json)
  | .bool keep => .ok (if keep then some .null else none)
  | .object query => do
    if ← admits query .null then
      match bodyOf query with
      | .faulty fault => .error (.invalidQuery fault)
      | _ => .ok (some .null)
    else .ok none
  | source => .error (.unknownQuery .null source)

def fieldOutcome (v source : Json) : Except Error (Option Json) :=
  if v.isNull then nullOutcome source else (execute v source).result

/-- What becomes of the field of an object at which a query stands, if it is there. -/
def outcomeAt (members : List Member) (m : Member) : Except Error (Option Json) :=
  match Member.lookup m.key members with
  | none => .ok none
  | some v => fieldOutcome v m.value

/-- The query is neither `false` nor does it have a gate that null does not pass. -/
def KeepsNull (source : Json) : Prop :=
  source ≠ .bool false ∧
    ∀ condition, source.get? gateKey = some condition → (isMatch .null condition).result ≠ .ok false

theorem nullOutcome_eq_ok {source : Json} {projected : Option Json}
    (h : nullOutcome source = .ok projected) :
    (projected = some .null ∧ KeepsNull source) ∨ (projected = none ∧ ¬KeepsNull source) := by
  cases source with
  | bool keep =>
    cases h
    cases keep with
    | false => exact .inr ⟨rfl, fun hkeeps => hkeeps.1 rfl⟩
    | true => exact .inl ⟨rfl, nofun, nofun⟩
  | object query =>
    obtain ⟨passed, hpassed, h⟩ := Except.bind_eq_ok.mp h
    cases passed with
    | false =>
      cases h
      refine .inr ⟨rfl, fun hkeeps => ?_⟩
      unfold admits at hpassed
      split at hpassed
      next => cases hpassed
      next condition hgate => exact hkeeps.2 condition hgate hpassed
    | true =>
      rw [if_pos rfl] at h
      split at h
      next => cases h
      next =>
        cases h
        refine .inl ⟨rfl, nofun, fun condition hgate hfalse => ?_⟩
        have hgate : Member.lookup gateKey query = some condition := hgate
        rw [admits, hgate] at hpassed
        exact Bool.false_ne_true (Except.ok.inj (hfalse.symm.trans hpassed))
  | _ => cases h

theorem fieldOutcome_of_ne_null {v : Json} (h : v ≠ .null) (source : Json) :
    fieldOutcome v source = (execute v source).result := by
  cases v with
  | null => exact absurd rfl h
  | _ => rfl

/-- A field is there as what its query makes of it, or as null. -/
theorem fieldOutcome_eq_ok {v source : Json} {projected : Option Json}
    (h : fieldOutcome v source = .ok projected) (w : Json) :
    projected = some w ↔ (v ≠ .null ∧ (execute v source).result = .ok (some w) ∨
      v = .null ∧ w = .null ∧ KeepsNull source) := by
  by_cases hv : v = .null
  · subst hv
    obtain ⟨rfl, hkeeps⟩ | ⟨rfl, hkeeps⟩ := nullOutcome_eq_ok h
    · constructor
      · intro hw
        cases hw
        exact .inr ⟨rfl, rfl, hkeeps⟩
      · rintro (⟨hne, -⟩ | ⟨-, rfl, -⟩)
        · exact absurd rfl hne
        · rfl
    · refine ⟨nofun, ?_⟩
      rintro (⟨hne, -⟩ | ⟨-, -, hkept⟩)
      · exact absurd rfl hne
      · exact absurd hkept hkeeps
  · rw [fieldOutcome_of_ne_null hv] at h
    rw [h]
    constructor
    · rintro rfl
      exact .inl ⟨hv, rfl⟩
    · rintro (⟨-, heq⟩ | ⟨hnull, -⟩)
      · exact Except.ok.inj heq
      · exact absurd hnull hv

section
variable {members : List Member} {m : Member}

theorem outcomeAt_eq_error_iff {e : Error} : outcomeAt members m = .error e ↔
    ∃ v, Member.lookup m.key members = some v ∧ fieldOutcome v m.value = .error e := by
  unfold outcomeAt
  cases Member.lookup m.key members with
  | none => exact ⟨nofun, nofun⟩
  | some v => exact ⟨fun h => ⟨v, rfl, h⟩, fun ⟨_, hv, h⟩ => by cases hv; exact h⟩

theorem succeeds_outcomeAt_iff : Succeeds (outcomeAt members m) ↔
    ∀ v, Member.lookup m.key members = some v → Succeeds (fieldOutcome v m.value) := by
  unfold outcomeAt
  cases Member.lookup m.key members with
  | none => exact iff_of_true ⟨none, rfl⟩ nofun
  | some v => exact ⟨fun h _ hv => by cases hv; exact h, fun h => h v rfl⟩

theorem outcomeAt_eq_ok {projected : Option Json} (h : outcomeAt members m = .ok projected)
    (w : Json) : projected = some w ↔ ∃ v, Member.lookup m.key members = some v ∧
      (v ≠ .null ∧ (execute v m.value).result = .ok (some w) ∨
        v = .null ∧ w = .null ∧ KeepsNull m.value) := by
  unfold outcomeAt at h
  split at h
  next hnone =>
    cases h
    rw [hnone]
    exact ⟨nofun, nofun⟩
  next v hv =>
    rw [fieldOutcome_eq_ok h w, hv]
    exact ⟨fun hw => ⟨v, rfl, hw⟩, fun ⟨_, hsome, hw⟩ => by cases hsome; exact hw⟩

end

/-! ## Null through a query -/

theorem result_passesGate (query : List Member) (v : Json) :
    (Projector.passesGate (gateOf query) v).result = admits query v := by
  unfold Projector.passesGate gateOf admits
  cases Member.lookup gateKey query with
  | none => rfl
  | some condition =>
    unfold isMatch
    dsimp only [Option.map_some]
    rw [Recorded.result_bind, Recorded.result_bind, Recorded.result_ofExcept]
    cases Condition.ofJson condition <;> rfl

omit [Pattern.Engine] in
theorem shape_null (body : Projection) (source : Json) (gated : Bool) :
    (body.shape source gated .null).result =
      match body with
      | .faulty fault => .error (.invalidQuery fault)
      | _ => .ok .null := by
  cases body with
  | faulty fault => rfl
  | fields fields => cases gated <;> rfl
  | selection filter element indexed asArray => cases gated <;> rfl

theorem result_null (source : Json) :
    ((ofJson source).projector.passes .null >>= fun passed =>
      if passed then (ofJson source).projector.shape .null >>= fun shaped => pure (some shaped)
      else pure none : Evaluation (Option Json)).result = nullOutcome source := by
  cases source with
  | bool keep => cases keep <;> rfl
  | object query =>
    rw [ofJson_object, Recorded.result_bind]
    change (Projector.passesGate (gateOf query) .null).result >>= _ = _
    rw [result_passesGate]
    unfold nullOutcome
    congr 1
    funext passed
    cases passed with
    | false => rfl
    | true =>
      change ((bodyOf query).shape (.object query) (gateOf query).isSome .null >>= fun shaped =>
        pure (some shaped) : Evaluation (Option Json)).result = _
      rw [Recorded.result_bind, shape_null]
      cases bodyOf query <;> rfl
  | _ => rfl

end Query

/-! ## Fields -/

/-- A field is projected as a value of its own, unless it is null. -/
theorem Projector.result_projectField (members : List Member) (m : Member) :
    (projectField members (m.key, (Query.ofJson m.value).projector)).result =
      Query.outcomeAt members m := by
  unfold projectField Query.outcomeAt
  cases Member.lookup m.key members with
  | none => rfl
  | some v =>
    dsimp only
    unfold Query.fieldOutcome
    split
    next hnull =>
      cases v with
      | null => exact Query.result_null m.value
      | _ => cases hnull
    next hnull =>
      unfold execute Projector.run
      rw [if_neg hnull]

section
variable {query : List Member}

theorem result_execute_fields (hfields : ∀ m ∈ query, isReservedKey m.key = false)
    (members : List Member) :
    (execute (.object members) (.object query)).result =
      ((query.map fun m => (m.key, (Query.ofJson m.value).projector)).foldlM
        (fun index field => (Projector.addField members index field).result) []).map fun index =>
          some (.object index) := by
  have hselect : execute (.object members) (.object query) =
      Projector.selectFields (query.map fun m => (m.key, (Query.ofJson m.value).projector)) members >>=
        fun r => pure (some r) := by
    unfold execute
    rw [Query.ofJson_fields hfields]
    have hprojectors := FieldQuery.projectors_eq_map
      (query.map fun m => ⟨m.key, Query.ofJson m.value⟩)
    rw [List.map_map] at hprojectors
    exact congrArg (fun fields => Projector.selectFields fields members >>= fun r => pure (some r))
      hprojectors
  rw [hselect, Recorded.result_bind, Projector.selectFields_eq_foldlM, Recorded.result_bind,
    Recorded.result_foldlM]
  cases (query.map fun m => (m.key, (Query.ofJson m.value).projector)).foldlM
    (fun index field => (Projector.addField members index field).result) [] <;> rfl

theorem execute_fields_eq_error_iff (hfields : ∀ m ∈ query, isReservedKey m.key = false)
    (members : List Member) (e : Error) :
    (execute (.object members) (.object query)).result = .error e ↔
      ∃ before m after, query = before ++ m :: after ∧ Query.outcomeAt members m = .error e ∧
        ∀ n ∈ before, Succeeds (Query.outcomeAt members n) := by
  rw [result_execute_fields hfields, Except.map_eq_error, List.foldlM_map, Except.foldlM_eq_error_iff
    fun index m => Projector.result_addField members index
      (m.key, (Query.ofJson m.value).projector)]
  simp only [Projector.result_projectField]
  rfl

theorem execute_fields_eq_ok (hquery : Member.Ascending query)
    (hfields : ∀ m ∈ query, isReservedKey m.key = false) {members : List Member} {r : Option Json}
    (h : (execute (.object members) (.object query)).result = .ok r) :
    ∃ index, r = some (.object index) ∧ Member.Ascending index ∧
      (∀ m ∈ query, Query.outcomeAt members m = .ok (Member.lookup m.key index)) ∧
      ∀ key, Member.lookup key query = none → Member.lookup key index = none := by
  rw [result_execute_fields hfields] at h
  obtain ⟨index, hindex, rfl⟩ := Except.map_eq_ok.mp h
  have hascending : Member.Ascending index := Except.foldlM_invariant
    (fun _ index => Member.Ascending index) (fun _ field _ index index' hs hadd => by
      rw [Projector.result_addField] at hadd
      obtain ⟨projected, -, rfl⟩ := Except.map_eq_ok.mp hadd
      cases projected with
      | none => exact hs
      | some v => exact hs.insert _) .nil hindex
  have hnames : (query.map fun m => (m.key, (Query.ofJson m.value).projector)).map Prod.fst =
      query.map Member.key := by
    rw [List.map_map]
    rfl
  obtain ⟨hprojected, houtside⟩ := Projector.foldlM_addField
    (by rw [hnames]; exact hquery.keys_nodup) (fun _ _ => rfl) hindex
  refine ⟨index, rfl, hascending, fun m hm => ?_, fun key hkey => houtside key ?_⟩
  · rw [← Projector.result_projectField]
    exact List.forall_mem_map.mp hprojected m hm
  · rw [hnames, ← Member.isSome_lookup_iff, hkey]
    exact Bool.false_ne_true

end

/-- A query for fields fails with the first error that comes up at the keys it shares with an object, in
their order. Otherwise it makes an object of the fields at these keys: of those that are not null, what
their queries make of them, as far as they are included, and of those that are null the ones that their
queries keep. -/
theorem execute_fields {query : List Member} (hquery : Member.Ascending query)
    (hfields : ∀ m ∈ query, isReservedKey m.key = false) (members : List Member) :
    (∀ e, (execute (.object members) (.object query)).result = .error e ↔
      ∃ before m after v, query = before ++ m :: after ∧ Member.lookup m.key members = some v ∧
        Query.fieldOutcome v m.value = .error e ∧
        ∀ n ∈ before, ∀ w, Member.lookup n.key members = some w →
          Succeeds (Query.fieldOutcome w n.value)) ∧
    ∀ r, (execute (.object members) (.object query)).result = .ok r →
      ∃ index, r = some (.object index) ∧ Member.Ascending index ∧
        ∀ key w, Member.lookup key index = some w ↔
          ∃ v source, Member.lookup key members = some v ∧ Member.lookup key query = some source ∧
            (v ≠ .null ∧ (execute v source).result = .ok (some w) ∨
              v = .null ∧ w = .null ∧ Query.KeepsNull source) := by
  refine ⟨fun e => ?_, fun r hr => ?_⟩
  · simp only [execute_fields_eq_error_iff hfields, Query.outcomeAt_eq_error_iff,
      Query.succeeds_outcomeAt_iff]
    constructor
    · rintro ⟨before, m, after, hsplit, ⟨v, hv, hm⟩, hbefore⟩
      exact ⟨before, m, after, v, hsplit, hv, hm, hbefore⟩
    · rintro ⟨before, m, after, v, hsplit, hv, hm, hbefore⟩
      exact ⟨before, m, after, hsplit, ⟨v, hv, hm⟩, hbefore⟩
  · obtain ⟨index, rfl, hascending, houtcome, houtside⟩ := execute_fields_eq_ok hquery hfields hr
    refine ⟨index, rfl, hascending, fun key w => ?_⟩
    cases hsource : Member.lookup key query with
    | none =>
      rw [houtside key hsource]
      exact ⟨nofun, nofun⟩
    | some source =>
      have hfield := houtcome ⟨key, source⟩ (Member.mem_of_lookup hsource)
      rw [Query.outcomeAt_eq_ok hfield w]
      constructor
      · rintro ⟨v, hv, hw⟩
        exact ⟨v, source, hv, rfl, hw⟩
      · rintro ⟨v, _, hv, hsome, hw⟩
        cases hsome
        exact ⟨v, hv, hw⟩

end

section
attribute [local instance] Pattern.Engine.plain

/-- Two fields are null: the gate leaves the first one out, and a query that says nothing keeps the second
one. With a number as its query null is an error, which comes after the first field and before the
last. -/
theorem execute_fields_null :
    (Member.Ascending [⟨"a", .bool true⟩, ⟨"b", .single "$includeIf" (.single "$gt" (.ofNat 1))⟩,
        ⟨"c", .object []⟩] ∧
      (∀ m ∈ ([⟨"a", .bool true⟩, ⟨"b", .single "$includeIf" (.single "$gt" (.ofNat 1))⟩,
        ⟨"c", .object []⟩] : List Member), isReservedKey m.key = false) ∧
      ∃ index, (execute (.object [⟨"a", .ofNat 2⟩, ⟨"b", .null⟩, ⟨"c", .null⟩, ⟨"d", .null⟩])
        (.object [⟨"a", .bool true⟩, ⟨"b", .single "$includeIf" (.single "$gt" (.ofNat 1))⟩,
          ⟨"c", .object []⟩])).result = .ok (some (.object index)) ∧
        Member.lookup "b" index = none ∧ Member.lookup "c" index = some .null) ∧
    Member.Ascending [⟨"a", .bool true⟩, ⟨"c", .ofNat 5⟩, ⟨"d", .string "s"⟩] ∧
    (∀ m ∈ ([⟨"a", .bool true⟩, ⟨"c", .ofNat 5⟩, ⟨"d", .string "s"⟩] : List Member),
      isReservedKey m.key = false) ∧
    (execute (.object [⟨"a", .ofNat 2⟩, ⟨"b", .null⟩, ⟨"c", .null⟩, ⟨"d", .null⟩])
      (.object [⟨"a", .bool true⟩, ⟨"c", .ofNat 5⟩, ⟨"d", .string "s"⟩])).result =
        .error (.unknownQuery .null (.ofNat 5)) := by
  have hkeeps : Member.Ascending [⟨"a", .bool true⟩,
      ⟨"b", .single "$includeIf" (.single "$gt" (.ofNat 1))⟩, ⟨"c", .object []⟩] := by
    unfold Member.Ascending
    decide
  have hfails : Member.Ascending [⟨"a", .bool true⟩, ⟨"c", .ofNat 5⟩, ⟨"d", .string "s"⟩] := by
    unfold Member.Ascending
    decide
  refine ⟨⟨hkeeps, by decide, ?_⟩, hfails, by decide, ?_⟩
  · obtain ⟨index, hindex, -, hlookup⟩ := (execute_fields hkeeps (by decide)
      [⟨"a", .ofNat 2⟩, ⟨"b", .null⟩, ⟨"c", .null⟩, ⟨"d", .null⟩]).2
        (some (.object [⟨"a", .ofNat 2⟩, ⟨"c", .null⟩])) rfl
    refine ⟨index, congrArg Except.ok hindex, ?_, ?_⟩
    · rw [Option.eq_none_iff_forall_ne_some]
      intro w hw
      obtain ⟨v, source, hv, hsource, hcase⟩ := (hlookup "b" w).mp hw
      cases hv
      cases hsource
      obtain ⟨hne, -⟩ | ⟨-, -, -, hgate⟩ := hcase
      · exact hne rfl
      · exact hgate _ rfl rfl
    · exact (hlookup "c" .null).mpr ⟨.null, .object [], rfl, rfl, .inr ⟨rfl, rfl, nofun, nofun⟩⟩
  · refine ((execute_fields hfails (by decide) _).1 _).mpr
      ⟨[⟨"a", .bool true⟩], ⟨"c", .ofNat 5⟩, [⟨"d", .string "s"⟩], .null, rfl, rfl, rfl, ?_⟩
    refine List.forall_mem_singleton.mpr fun w hw => ?_
    cases hw
    exact ⟨_, rfl⟩

end

end Sift
