import Sift.Proofs.Condition.Single
import Sift.Proofs.Pattern.Plain
import Sift.Proofs.Query.Filtering

/-!
# Filtering before projecting

A query object that filters and projects does what two queries do in turn, the first of which filters
only (`execute_filter_fuses`). For an array this holds of the whole evaluation, since its elements are
all filtered before the first one is projected. The members of an object are filtered and projected one
by one, so of two failures another one may come first; but the two queries end well if the one does, and
give the same.
-/

namespace Sift

/-- Project a value through one query, and what is made of it through another one. -/
def executeInTurn [Pattern.Engine] (v first second : Json) : Evaluation (Option Json) := do
  match ← execute v first with
  | none => pure none
  | some r => execute r second

/-- What becomes of the members that pass is what becomes of those that a filter kept. -/
theorem Projector.outcomes_in_turn {filter : Option Gate} {indexed : Option Projector}
    {members : List Member} {results : List Outcome} :
    outcomes filter indexed members = .ok results ↔
      ∃ kept, survivors filter members = .ok kept ∧ outcomes none indexed kept = .ok results := by
  rw [outcomes_eq_ok_iff]
  simp only [outcomes_without_filter]

theorem executeInTurn_array [Pattern.Engine] (elements : List Json) (filter query : Json) :
    executeInTurn (.array elements) (filterQuery filter) (.single "$elementQuery" query) =
      Projector.keepElements (some (Condition.ofJson filter)) elements >>= fun kept =>
        Projector.projectElements (Query.ofJson query).projector kept >>= fun r =>
          pure (some r) := by
  have hfirst : execute (.array elements) (filterQuery filter) =
      Projector.selectElements (some (Condition.ofJson filter)) none elements >>= fun r =>
        pure (some r) := rfl
  unfold executeInTurn
  rw [hfirst, Projector.selectElements_filter, bind_assoc, bind_assoc]
  refine bind_congr fun kept => ?_
  have hsecond : execute (.array kept) (.single "$elementQuery" query) =
      Projector.selectElements none (some (Query.ofJson query).projector) kept >>= fun r =>
        pure (some r) := rfl
  rw [pure_bind, pure_bind]
  change execute (.array kept) (.single "$elementQuery" query) = _
  rw [hsecond, Projector.selectElements_project, Projector.keepElements_all, pure_bind]

/-- To filter and to project is to filter first and to project what is left. For an array the
evaluations are the same, and for an object they end well together and then give the same. -/
theorem execute_filter_fuses [Pattern.Engine] :
    (∀ (elements : List Json) (filter query : Json),
      execute (.array elements) (.object [⟨"$elementQuery", query⟩, ⟨"$filter", filter⟩]) =
        executeInTurn (.array elements) (filterQuery filter) (.single "$elementQuery" query)) ∧
    ∀ (members : List Member) (filter query : Json) (r : Option Json), Member.Ascending members →
      ((execute (.object members)
          (.object [⟨"$filter", filter⟩, ⟨"$indexedQuery", query⟩])).result = .ok r ↔
        (executeInTurn (.object members) (filterQuery filter)
          (.single "$indexedQuery" query)).result = .ok r) := by
  constructor
  · intro elements filter query
    have hexecute : execute (.array elements)
        (.object [⟨"$elementQuery", query⟩, ⟨"$filter", filter⟩]) =
          Projector.selectElements (some (Condition.ofJson filter))
            (some (Query.ofJson query).projector) elements >>= fun r => pure (some r) := rfl
    rw [hexecute, executeInTurn_array, Projector.selectElements_project, bind_assoc]
  · intro members filter query r hmembers
    have hfused : Query.ofJson (.object [⟨"$filter", filter⟩, ⟨"$indexedQuery", query⟩]) =
        .object (.object [⟨"$filter", filter⟩, ⟨"$indexedQuery", query⟩]) none
          (.selection (some (Condition.ofJson filter)) none (some (Query.ofJson query)) false) := rfl
    have hsecond : Query.ofJson (.single "$indexedQuery" query) =
        .object (.single "$indexedQuery" query) none
          (.selection none none (some (Query.ofJson query)) false) := rfl
    have hfilter := result_filterQuery_object filter hmembers
    rw [result_execute_members hfused rfl hmembers, Except.map_eq_ok]
    constructor
    · rintro ⟨results, hresults, rfl⟩
      obtain ⟨kept, hkept, hprojected⟩ := Projector.outcomes_in_turn.mp hresults
      have hascending := hmembers.sublist (Projector.survivors_sublist hkept)
      refine Recorded.result_bind_eq_ok.mpr ⟨some (.object kept), ?_, ?_⟩
      · rw [hfilter, hkept]
        rfl
      · rw [result_execute_members hsecond rfl hascending]
        exact Except.map_eq_ok.mpr ⟨results, hprojected, rfl⟩
    · intro h
      obtain ⟨_, hfirst, h⟩ := Recorded.result_bind_eq_ok.mp h
      rw [hfilter] at hfirst
      obtain ⟨kept, hkept, rfl⟩ := Except.map_eq_ok.mp hfirst
      have hascending := hmembers.sublist (Projector.survivors_sublist hkept)
      obtain ⟨results, hprojected, rfl⟩ := Except.map_eq_ok.mp
        ((result_execute_members hsecond rfl hascending).symm.trans h)
      exact ⟨results, Projector.outcomes_in_turn.mpr ⟨kept, hkept, hprojected⟩, rfl⟩

section
attribute [local instance] Pattern.Engine.plain

/-- The first member is filtered out, and the gate of the query leaves the last one out. -/
theorem execute_filter_fuses_gate :
    Member.Ascending [⟨"a", .ofNat 1⟩, ⟨"b", .ofNat 2⟩, ⟨"c", .ofNat 3⟩] ∧
      (execute (.object [⟨"a", .ofNat 1⟩, ⟨"b", .ofNat 2⟩, ⟨"c", .ofNat 3⟩])
        (.object [⟨"$filter", .single "$value" (.single "$gt" (.ofNat 1))⟩,
          ⟨"$indexedQuery", .single "$includeIf" (.single "$lt" (.ofNat 3))⟩])).result =
        .ok (some (.object [⟨"b", .ofNat 2⟩])) := by
  have hmembers : Member.Ascending [⟨"a", .ofNat 1⟩, ⟨"b", .ofNat 2⟩, ⟨"c", .ofNat 3⟩] := by
    unfold Member.Ascending
    decide
  exact ⟨hmembers, (execute_filter_fuses.2 _ _ _ _ hmembers).mpr rfl⟩

/-- The first member passes and has no projection, the second one cannot be tested: which of the two
failures comes up depends on whether all is filtered first. -/
example :
    let members : List Member := [⟨"a", .single "x" (.ofNat 1)⟩, ⟨"b", .ofNat 1⟩]
    let filter : Json := .single "$value" (.single "x" (.ofNat 1))
    (execute (.object members) (.object [⟨"$filter", filter⟩, ⟨"$indexedQuery", .null⟩])).result =
        .error (.unknownQuery (.single "x" (.ofNat 1)) .null) ∧
      (executeInTurn (.object members) (filterQuery filter) (.single "$indexedQuery" .null)).result =
        .error (.notAnObject (.value (.ofNat 1))) :=
  ⟨rfl, rfl⟩

end

end Sift
