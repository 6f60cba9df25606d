import Mathlib.Data.List.Forall2
import Sift.Proofs.Query.Selection
import Sift.Proofs.Sequence.Staging

/-!
# What becomes of the members of an object

Both ways to select the members of an object, to an array and to an object, compute one and the same
thing: the keys of the members that pass, each with what becomes of the value at it
(`Projector.outcomes`). They differ in what they make of it at the end only
(`Projector.result_selectMembers`). In particular they fail alike, and no key comes up twice where an
object is assembled, since the keys of an object ascend.
-/

namespace Sift

namespace Projector

/-- A key of an object, and what becomes of the value at it. -/
abbrev Outcome : Type := String × Option Json

def Outcome.present (outcome : Outcome) : Option Member :=
  outcome.2.map fun v => ⟨outcome.1, v⟩

def outcome (indexed : Option Projector) (m : Member) : Except Error Outcome :=
  (runOptional indexed m.value).result.map fun projected => (m.key, projected)

def survivors (filter : Option Gate) (members : List Member) : Except Error (List Member) :=
  (readGate filter).result >>= fun condition =>
    Sequence.filter (fun m _ => (keeps condition m).result) members

/-- What becomes of the members that pass a filter. -/
def outcomes (filter : Option Gate) (indexed : Option Projector) (members : List Member) :
    Except Error (List Outcome) :=
  (readGate filter).result >>= fun condition =>
    Sequence.select (fun m => (keeps condition m).result) (outcome indexed) members

/-- An array has an item for each outcome, an object those that are present. -/
def assemble (asArray : Bool) (outcomes : List Outcome) : Json :=
  if asArray then .array (outcomes.map fun outcome => outcome.2.getD .null)
  else .object (outcomes.filterMap Outcome.present)

variable {condition : Option Condition} {filter : Option Gate} {indexed : Option Projector}
  {members : List Member}

/-! ## Outcomes -/

theorem survivors_sublist {kept : List Member} (h : survivors filter members = .ok kept) :
    kept.Sublist members := by
  obtain ⟨condition, -, hkept⟩ := Except.bind_eq_ok.mp h
  exact Sequence.filter_sublist hkept

theorem outcomes_eq_ok_iff {results : List Outcome} :
    outcomes filter indexed members = .ok results ↔
      ∃ kept, survivors filter members = .ok kept ∧ kept.mapM (outcome indexed) = .ok results := by
  unfold outcomes survivors
  cases (readGate filter).result with
  | error e => exact ⟨nofun, nofun⟩
  | ok condition => exact Sequence.select_eq_ok_iff

theorem outcomes_without_query (filter : Option Gate) (members : List Member) :
    outcomes filter none members =
      (survivors filter members).map (List.map fun m => (m.key, some m.value)) := by
  unfold outcomes survivors
  cases (readGate filter).result with
  | error e => rfl
  | ok condition => exact Sequence.select_of_ok (fun m : Member => (m.key, some m.value)) members

theorem outcomes_without_filter (indexed : Option Projector) (members : List Member) :
    outcomes none indexed members = members.mapM (outcome indexed) :=
  Sequence.select_of_passes fun _ _ => rfl

theorem filterMap_present_whole (members : List Member) :
    (members.map fun m => ((m.key, some m.value) : Outcome)).filterMap Outcome.present = members := by
  have hwhole : (Outcome.present ∘ fun m : Member => (m.key, some m.value)) = some := by
    funext m
    cases m
    rfl
  rw [List.filterMap_map, hwhole, List.filterMap_some]

/-! ## To an array -/

theorem result_addValue (values : List Json) (m : Member) :
    (addValue condition indexed values m).result =
      (keeps condition m).result >>= fun passed =>
        if passed then outcome indexed m >>= fun outcome => pure (values ++ [outcome.2.getD .null])
        else pure values := by
  unfold addValue outcome
  rw [Recorded.result_bind]
  congr 1
  funext passed
  cases passed with
  | false => rfl
  | true =>
    rw [if_pos rfl, if_pos rfl, Recorded.result_bind]
    cases (runOptional indexed m.value).result <;> rfl

theorem foldlM_addValue (condition : Option Condition) (indexed : Option Projector)
    (members : List Member) :
    members.foldlM (fun values m => (addValue condition indexed values m).result) [] =
      (Sequence.select (fun m => (keeps condition m).result) (outcome indexed) members).map
        (List.map fun outcome => outcome.2.getD .null) := by
  refine Eq.trans (Sequence.foldlM_select (f := outcome indexed)
    (fun outcome => [outcome.2.getD .null]) (fun _ _ => True)
    (fun values m _ _ => result_addValue values m) (fun _ _ _ _ => trivial)
    (fun _ _ _ _ _ _ => trivial) trivial) ?_
  simp only [List.nil_append, ← List.map_eq_flatMap]

/-! ## To an object -/

/-- Beyond all keys that are there, what is left of a member is appended. -/
theorem result_addMember {index : List Member} {m : Member} (h : ∀ n ∈ index, n.key < m.key) :
    (addMember condition indexed index m).result =
      (keeps condition m).result >>= fun passed =>
        if passed then outcome indexed m >>= fun outcome => pure (index ++ outcome.present.toList)
        else pure index := by
  unfold addMember outcome
  rw [Recorded.result_bind]
  congr 1
  funext passed
  cases passed with
  | false => rfl
  | true =>
    rw [if_pos rfl, if_pos rfl, Recorded.result_bind]
    cases (runOptional indexed m.value).result with
    | error e => rfl
    | ok projected =>
      cases projected with
      | none => exact congrArg Except.ok (List.append_nil index).symm
      | some v =>
        change (if (Member.lookup m.key index).isSome then fail (.duplicateKey m.key)
          else pure (Member.insert ⟨m.key, v⟩ index) : Evaluation (List Member)).result = _
        rw [if_neg (Member.not_isSome_lookup_of_lt h)]
        exact congrArg Except.ok (Member.insert_eq_append h)

theorem key_of_present {indexed : Option Projector} {m n : Member} {o : Outcome}
    (ho : outcome indexed m = .ok o) (hn : n ∈ o.present.toList) : n.key = m.key := by
  obtain ⟨projected, -, rfl⟩ := Except.map_eq_ok.mp ho
  obtain ⟨v, -, rfl⟩ := Option.map_eq_some_iff.mp (Option.mem_toList.mp hn)
  rfl

theorem foldlM_addMember (condition : Option Condition) (indexed : Option Projector)
    (h : Member.Ascending members) :
    members.foldlM (fun index m => (addMember condition indexed index m).result) [] =
      (Sequence.select (fun m => (keeps condition m).result) (outcome indexed) members).map
        (List.filterMap Outcome.present) := by
  refine Eq.trans (Sequence.foldlM_select (f := outcome indexed)
    (fun outcome => outcome.present.toList) Member.Precedes
    (fun index m rest hI => result_addMember hI.last) (fun index m rest hI => hI.next fun _ => .inr)
    (fun index m rest o hI ho => hI.next fun n hn => ?_) h.precedes) ?_
  · exact (List.mem_append.mp hn).symm.imp_left (key_of_present ho)
  · simp only [List.nil_append, ← List.filterMap_eq_flatMap_toList]

/-! ## Either way -/

/-- What becomes of the members is computed once, and assembled then. -/
theorem result_selectMembers (filter : Option Gate) (indexed : Option Projector) (asArray : Bool)
    (h : Member.Ascending members) :
    (selectMembers filter indexed asArray members).result =
      (outcomes filter indexed members).map (assemble asArray) := by
  unfold outcomes
  cases asArray with
  | true =>
    rw [selectMembers_asArray, Recorded.result_bind]
    cases (readGate filter).result with
    | error e => rfl
    | ok condition =>
      refine (Recorded.result_bind _ _).trans ?_
      rw [Recorded.result_foldlM, foldlM_addValue]
      exact Except.map_bind_pure _ _ _
  | false =>
    rw [selectMembers_asObject, Recorded.result_bind]
    cases (readGate filter).result with
    | error e => rfl
    | ok condition =>
      refine (Recorded.result_bind _ _).trans ?_
      rw [Recorded.result_foldlM, foldlM_addMember condition indexed h]
      exact Except.map_bind_pure _ _ _

end Projector

theorem Query.isSome_projector? (nested : Option Query) :
    (Query.projector? nested).isSome = nested.isSome := by
  cases nested <;> rfl

theorem result_execute_members [Pattern.Engine] {source : Json} {filter : Option Gate} {indexed : Option Query}
    {asArray : Bool} {members : List Member}
    (hread : Query.ofJson source = .object source none (.selection filter none indexed asArray))
    (hselects : (filter.isSome || indexed.isSome) = true) (h : Member.Ascending members) :
    (execute (.object members) source).result =
      (Projector.outcomes filter (Query.projector? indexed) members).map fun results =>
        some (Projector.assemble asArray results) := by
  have hselects' : ((filter.isSome || (Query.projector? indexed).isSome) &&
      (Query.projector? none).isNone) = true := by
    rw [Query.isSome_projector?, hselects]
    rfl
  have hselect : execute (.object members) source =
      Projector.selectMembers filter (Query.projector? indexed) asArray members >>= fun r =>
        pure (some r) := by
    unfold execute
    rw [hread]
    exact congrArg (· >>= fun r => pure (some r)) (if_pos hselects')
  rw [hselect, Recorded.result_bind, Projector.result_selectMembers _ _ _ h]
  exact Except.map_bind_pure _ _ _

end Sift
