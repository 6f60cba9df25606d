import Sift.Proofs.Condition.Faults
import Sift.Proofs.Condition.Grounding
import Sift.Proofs.Json.Text
import Sift.Proofs.Pattern.Plain
import Sift.Proofs.Query.Confinement

/-!
# Evaluations stand on data

A condition is tested at roots only, in queries as elsewhere, and something is at every root. So no
record shows a missing value, and no evaluation ends with a step that is illegal for lack of data
(`test_stands_on_data`).
-/

namespace Sift

/-! ## Evaluations -/

/-- What is noted happened where something is, and no step is illegal for lack of data. -/
def Evaluation.Grounded {α : Type} (x : Evaluation α) : Prop :=
  x.Confined (fun event => event.cursor.isPresent = true) fun e => ¬e.IsMissingData

theorem Condition.grounded_at (condition : Condition) {c : Cursor} (hc : c.isPresent = true) :
    Evaluation.Grounded (condition.test c) :=
  (condition.grounded c hc).mono (fun _ h => h.1) fun _ h => h.not_isMissingData

theorem Confinement.notMissingData : Confinement (fun _ => True) fun e => ¬e.IsMissingData where
  element _ _ _ _ := trivial
  member _ _ _ _ := trivial
  reading _ he := he.not_isMissingData
  test _ he := he.not_isMissingData
  unknownQuery _ _ := id
  invalidQuery _ := id
  duplicateKey _ _ := .inr fun _ => id

theorem grounded_execute [Pattern.Engine] (v query : Json) : (execute v query).Grounded :=
  Confinement.notMissingData.execute trivial query

theorem grounded_isMatch [Pattern.Engine] (v source : Json) : (isMatch v source).Grounded := by
  have hfails : FailsOnly (fun e => ¬e.IsMissingData) (Condition.ofJson source) :=
    (Condition.failsOnly_ofJson source).mono fun _ he => he.not_isMissingData
  exact (Recorded.Confined.ofExcept hfails).bind fun condition _ =>
    condition.grounded_at rfl

/-! ## What is shown -/

/-- No answer shows a missing value, and the evaluation does not end with a step from what is absent
or to an element of what has none. -/
structure Evaluation.StandsOnData {α : Type} (x : Evaluation α) : Prop where
  shown : ∀ answer ∈ answers x.log, answer.value ≠ "undefined"
  derived : ∀ path, x.result ≠ .error (.navigation .derivedFromAbsent path)
  stepped : ∀ node path, x.result ≠ .error (.navigation (.noElements node) path)

theorem Evaluation.Grounded.standsOnData {α : Type} {x : Evaluation α} (h : x.Grounded) :
    x.StandsOnData where
  shown answer hanswer := by
    obtain ⟨event, hevent, heq⟩ := List.mem_filterMap.mp hanswer
    have hpresent := h.noted event hevent
    cases event with
    | entered _ => cases heq
    | answered operator c result =>
      cases heq
      intro htext
      rw [Node.text_eq_undefined_iff] at htext
      exact absurd (htext.symm.trans hpresent) Bool.false_ne_true
  derived _ hresult := h.failed _ hresult trivial
  stepped _ _ hresult := h.failed _ hresult trivial

/-- Tested where something is, a condition is entered and its operators answer only where something
is, at the cursor or below it. So wherever values are matched or projected, no answer shows a missing
value, and no step is illegal for lack of data. -/
theorem test_stands_on_data [Pattern.Engine] :
    (∀ (condition : Condition) (c : Cursor), c.isPresent = true →
      (∀ event ∈ (condition.test c).log, event.cursor.isPresent = true ∧
        c.Encloses event.cursor ∧ c.path <+: event.cursor.path) ∧
      Evaluation.StandsOnData (condition.test c)) ∧
    (∀ v source, (isMatch v source).StandsOnData) ∧
    (∀ (condition : Condition) (m : Member), (condition.matchesEntry m).StandsOnData) ∧
    ∀ v query, (execute v query).StandsOnData := by
  refine ⟨fun condition c hc => ⟨fun event hevent => ?_, ?_⟩, fun v source => ?_,
    fun condition m => ?_, fun v query => ?_⟩
  · obtain ⟨hpresent, hencloses⟩ := (condition.grounded c hc).noted event hevent
    exact ⟨hpresent, hencloses, hencloses.path_prefix⟩
  · exact (condition.grounded_at hc).standsOnData
  · exact (grounded_isMatch v source).standsOnData
  · exact (condition.grounded_at rfl).standsOnData
  · exact (grounded_execute v query).standsOnData

section
attribute [local instance] Pattern.Engine.plain

/-- A string below `x` has no second element, so the condition on it is never entered: the answer is
given at the string. -/
theorem test_stands_on_data_beyond_end :
    (Cursor.child (.root (.value .null)) "x" (.value (.object [⟨"a", .string "s"⟩]))).isPresent =
      true ∧
    answers ((Condition.ofField "a" (.ofOperator (.within (.element 1) (.equals .null)))).test
      (.child (.root (.value .null)) "x" (.value (.object [⟨"a", .string "s"⟩])))).log =
      [⟨"$elementAt", "\"s\"", "x.a", false⟩] ∧
    ∀ event ∈ ((Condition.ofField "a" (.ofOperator (.within (.element 1) (.equals .null)))).test
      (.child (.root (.value .null)) "x" (.value (.object [⟨"a", .string "s"⟩])))).log,
      event.cursor.isPresent = true ∧
        (Cursor.child (.root (.value .null)) "x" (.value (.object [⟨"a", .string "s"⟩]))).Encloses
          event.cursor ∧
        ["x"] <+: event.cursor.path :=
  ⟨rfl, by decide +kernel, (test_stands_on_data.1 _ _ rfl).1⟩

end

end Sift
