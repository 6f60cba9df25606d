import Sift.Proofs.Json.WellFormed
import Sift.Proofs.Recorded
import Sift.Proofs.Sequence.Chain
import Sift.Proofs.Sequence.Filter
import Sift.Query.Execution

/-!
# Selecting in one loop

The members of an object are selected by a lazy chain of a filter, a projection and another filter,
and its fields by a chain over the queries. No stage looks at a count, so each chain is a fold:
`Projector.addValue`, `Projector.addMember` and `Projector.addField` say what one step adds to the
array or to the object that is assembled. Elements are kept first and projected then
(`Projector.selectElements_project`). Of fields with different names each one adds its own
projection (`Projector.foldlM_addField`).
-/

namespace Sift

namespace Projector

def keeps (condition : Option Condition) (m : Member) : Evaluation Bool :=
  match condition with
  | none => pure true
  | some condition => condition.matchesEntry m

/-- Project a member to the end of an array, if it passes. -/
def addValue (condition : Option Condition) (indexed : Option Projector) (values : List Json)
    (m : Member) : Evaluation (List Json) := do
  if ← keeps condition m then
    let projected ← runOptional indexed m.value
    pure (values ++ [projected.getD .null])
  else pure values

def addMember (condition : Option Condition) (indexed : Option Projector) (index : List Member)
    (m : Member) : Evaluation (List Member) := do
  if ← keeps condition m then
    match ← runOptional indexed m.value with
    | none => pure index
    | some v =>
      if (Member.lookup m.key index).isSome then fail (.duplicateKey m.key)
      else pure (Member.insert ⟨m.key, v⟩ index)
  else pure index

/-- Project a field into an object, if there is such a field and it is included. -/
def addField (members : List Member) (index : List Member) (field : String × Projector) :
    Evaluation (List Member) :=
  match Member.lookup field.1 members with
  | none => pure index
  | some v => do
    if ← field.2.passes v then
      let shaped ← field.2.shape v
      pure (Member.insert ⟨field.1, shaped⟩ index)
    else pure index

def projectField (members : List Member) (field : String × Projector) : Evaluation (Option Json) :=
  match Member.lookup field.1 members with
  | none => pure none
  | some v => do
    if ← field.2.passes v then
      let shaped ← field.2.shape v
      pure (some shaped)
    else pure none

variable {σ : Type}

/-- Combining the members that pass is a fold with a branch. -/
theorem walk_maybeFilter (condition : Option Condition) (members : List Member)
    (step : σ → Member → Evaluation σ) (state : σ) :
    ((Chain.items members).maybeFilter condition fun condition m _ =>
        condition.matchesEntry m).walk (fun s m _ => step s m >>= fun s => pure (.yield s)) state =
      members.foldlM (fun s m => do
        if ← keeps condition m then step s m else pure s) state := by
  rw [← Chain.walkList_yield]
  cases condition with
  | none =>
    simp only [Chain.maybeFilter, keeps, pure_bind, if_true]
    rfl
  | some condition =>
    refine Eq.trans (Chain.walk_filter (.items members) condition.matchesEntry _ state) ?_
    rw [Chain.walk_items]
    congr 1
    funext s m _
    rw [bind_assoc]
    congr 1
    funext b
    cases b with
    | false => rfl
    | true => rfl

theorem selectMembers_asArray (filter : Option Gate) (indexed : Option Projector)
    (members : List Member) :
    selectMembers filter indexed true members =
      readGate filter >>= fun condition =>
        members.foldlM (addValue condition indexed) [] >>= fun values => pure (.array values) := by
  unfold selectMembers
  refine bind_congr fun condition => ?_
  rw [if_pos rfl]
  refine congrArg (· >>= fun values => pure (Json.array values)) ?_
  exact walk_maybeFilter condition members (fun values m =>
    runOptional indexed m.value >>= fun projected => pure (values ++ [projected.getD .null])) []

theorem selectMembers_asObject (filter : Option Gate) (indexed : Option Projector)
    (members : List Member) :
    selectMembers filter indexed false members =
      readGate filter >>= fun condition =>
        members.foldlM (addMember condition indexed) [] >>= fun index => pure (.object index) := by
  unfold selectMembers
  refine bind_congr fun condition => ?_
  rw [if_neg Bool.false_ne_true]
  refine congrArg (· >>= fun index => pure (Json.object index)) ?_
  refine Eq.trans (Chain.walk_filter (m := Evaluation) _
    (fun x : String × Option Json => pure x.2.isSome) _ []) ?_
  refine Eq.trans ?_ (walk_maybeFilter condition members (fun index m =>
    runOptional indexed m.value >>= fun projected =>
      match projected with
      | none => pure index
      | some v =>
        if (Member.lookup m.key index).isSome then fail (.duplicateKey m.key)
        else pure (Member.insert ⟨m.key, v⟩ index)) [])
  rw [Chain.walk_map]
  congr 1
  funext index m _
  rw [bind_assoc, bind_assoc]
  congr 1
  funext projected
  cases projected with
  | none => rfl
  | some v =>
    simp only [pure_bind, Option.isSome_some, if_true, Option.getD_some]
    split <;> rfl

theorem selectFields_eq_foldlM (fields : List (String × Projector)) (members : List Member) :
    selectFields fields members =
      fields.foldlM (addField members) [] >>= fun index => pure (.object index) := by
  rw [← Chain.walkList_yield (addField members) fields 0 []]
  rfl

/-! ## Elements -/

def keepElements (filter : Option Gate) (elements : List Json) : Evaluation (List Json) := do
  let condition ← readGate filter
  Sequence.filter (fun v _ =>
    match condition with
    | some condition => condition.matchesValue v
    | none => pure true) elements

theorem keepElements_all (elements : List Json) : keepElements none elements = pure elements :=
  Sequence.filter_pure_true elements

theorem selectElements_filter (filter : Option Gate) (elements : List Json) :
    selectElements filter none elements =
      keepElements filter elements >>= fun kept => pure (.array kept) := by
  unfold selectElements keepElements
  rw [bind_assoc]
  refine bind_congr fun condition => ?_
  cases condition <;> rfl

def projectElements (p : Projector) (elements : List Json) : Evaluation Json := do
  let projected ← elements.mapM fun v => do
    let projected ← p.run v
    pure (projected.getD .null)
  pure (.array projected)

theorem selectElements_project (filter : Option Gate) (p : Projector) (elements : List Json) :
    selectElements filter (some p) elements =
      keepElements filter elements >>= projectElements p := by
  unfold selectElements keepElements
  rw [bind_assoc]
  refine bind_congr fun condition => ?_
  cases condition <;> rfl

/-! ## What a step adds -/

section
variable {condition : Option Condition} {indexed : Option Projector}
  {members index index' : List Member} {field : String × Projector}
  {fields : List (String × Projector)}

/-- A member is left out, or added with what becomes of its value. -/
theorem addMember_eq_ok {m : Member}
    (h : (addMember condition indexed index m).result = .ok index') :
    index' = index ∨ ∃ v, (keeps condition m).result = .ok true ∧
      (runOptional indexed m.value).result = .ok (some v) ∧
      index' = Member.insert ⟨m.key, v⟩ index := by
  unfold addMember at h
  obtain ⟨passed, hpassed, h⟩ := Recorded.result_bind_eq_ok.mp h
  cases passed with
  | false =>
    cases h
    exact .inl rfl
  | true =>
    obtain ⟨projected, hprojected, h⟩ := Recorded.result_bind_eq_ok.mp h
    cases projected with
    | none =>
      cases h
      exact .inl rfl
    | some v =>
      dsimp only at h
      split at h
      · exact nomatch h
      · cases h
        exact .inr ⟨v, hpassed, hprojected, rfl⟩

theorem result_shaped_iff (p : Projector) {v r : Json} :
    (p.passes v >>= fun passed =>
      if passed then p.shape v >>= fun shaped => pure (some shaped) else pure none :
        Evaluation (Option Json)).result = .ok (some r) ↔
      (p.passes v).result = .ok true ∧ (p.shape v).result = .ok r := by
  constructor
  · intro h
    obtain ⟨passed, hpassed, h⟩ := Recorded.result_bind_eq_ok.mp h
    cases passed with
    | false => cases h
    | true =>
      obtain ⟨shaped, hshaped, h⟩ := Recorded.result_bind_eq_ok.mp h
      cases h
      exact ⟨hpassed, hshaped⟩
  · rintro ⟨hpasses, hshape⟩
    refine Recorded.result_bind_eq_ok.mpr ⟨true, hpasses, ?_⟩
    exact Recorded.result_bind_eq_ok.mpr ⟨r, hshape, rfl⟩

theorem projectField_eq_some_iff {r : Json} :
    (projectField members field).result = .ok (some r) ↔
      ∃ v, Member.lookup field.1 members = some v ∧ (field.2.passes v).result = .ok true ∧
        (field.2.shape v).result = .ok r := by
  unfold projectField
  cases Member.lookup field.1 members with
  | none => exact ⟨nofun, nofun⟩
  | some v =>
    refine (result_shaped_iff field.2).trans ⟨fun h => ⟨v, rfl, h⟩, ?_⟩
    rintro ⟨_, ⟨⟩, h⟩
    exact h

theorem result_addField (members index : List Member) (field : String × Projector) :
    (addField members index field).result = (projectField members field).result.map fun projected =>
      projected.elim index fun v => Member.insert ⟨field.1, v⟩ index := by
  unfold addField projectField
  cases Member.lookup field.1 members with
  | none => rfl
  | some v =>
    dsimp only
    rw [Recorded.result_bind, Recorded.result_bind]
    cases (field.2.passes v).result with
    | error e => rfl
    | ok passed =>
      cases passed with
      | false => rfl
      | true =>
        change (field.2.shape v >>= _ : Evaluation _).result =
          (field.2.shape v >>= _ : Evaluation _).result.map _
        rw [Recorded.result_bind, Recorded.result_bind]
        cases (field.2.shape v).result <;> rfl

/-- Under distinct names each field of the object that is assembled is the projection of that
field. -/
theorem foldlM_addField (hnames : (fields.map Prod.fst).Nodup) {start : List Member}
    (hnew : ∀ field ∈ fields, Member.lookup field.1 start = none)
    (h : fields.foldlM (fun index field => (addField members index field).result) start =
      .ok index) :
    (∀ field ∈ fields, (projectField members field).result = .ok (Member.lookup field.1 index)) ∧
      ∀ key ∉ fields.map Prod.fst, Member.lookup key index = Member.lookup key start := by
  induction fields generalizing start with
  | nil =>
    cases h
    exact ⟨nofun, fun _ _ => rfl⟩
  | cons field rest ih =>
    obtain ⟨hfield, hnames⟩ := List.nodup_cons.mp hnames
    obtain ⟨hfirst, hnew⟩ := List.forall_mem_cons.mp hnew
    rw [List.foldlM_cons, result_addField] at h
    obtain ⟨next, hnext, h⟩ := Except.bind_eq_ok.mp h
    obtain ⟨projected, hprojected, rfl⟩ := Except.map_eq_ok.mp hnext
    -- adding the field changes what is found at its own name only
    have hother : ∀ key, key ≠ field.1 → Member.lookup key
        (projected.elim start fun v => Member.insert ⟨field.1, v⟩ start) =
          Member.lookup key start := by
      intro key hkey
      cases projected with
      | none => rfl
      | some v => exact Member.lookup_insert_of_ne (Ne.symm hkey) start
    have hown : Member.lookup field.1
        (projected.elim start fun v => Member.insert ⟨field.1, v⟩ start) = projected := by
      cases projected with
      | none => exact hfirst
      | some v => exact Member.lookup_insert_self ⟨field.1, v⟩ start
    have hrest : ∀ other ∈ rest, other.1 ≠ field.1 := by
      intro other hmem heq
      exact hfield (heq ▸ List.mem_map_of_mem hmem)
    obtain ⟨hfields, houtside⟩ := ih hnames
      (fun other hmem => (hother other.1 (hrest other hmem)).trans (hnew other hmem)) h
    constructor
    · refine List.forall_mem_cons.mpr ⟨?_, hfields⟩
      rw [houtside field.1 hfield, hown, hprojected]
    · intro key hkey
      rw [List.map_cons, List.mem_cons, not_or] at hkey
      rw [houtside key hkey.2, hother key hkey.1]

end

end Projector

end Sift
