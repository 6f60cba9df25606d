import Mathlib.Data.List.Forall2
import Sift.Proofs.Condition.Locality
import Sift.Proofs.Condition.Quantifier
import Sift.Proofs.Json.WellFormed
import Sift.Proofs.Pattern.Plain
import Sift.Proofs.Query.Members
import Sift.Proofs.Sequence.Filter

/-!
# Filters and quantifiers

A filter in a query tests each element of an array at the root of its own tree, while a quantifier
in a condition tests it below the array; for an object the entries are tested at their own roots, or
below the object viewed as a sequence. A condition with local references cannot tell these places
apart, so the two agree (`execute_filter_tallies`): what a filter keeps says what each quantifier
answers, and a filter fails exactly if the quantifier does that counts all.
-/

namespace Sift

/-! ## Filters -/

def filterQuery (source : Json) : Json :=
  .object [⟨"$filter", source⟩]

section
variable [Pattern.Engine] {source : Json} {condition : Condition}

theorem execute_filterQuery_array (hread : Condition.ofJson source = .ok condition)
    (elements : List Json) :
    (execute (.array elements) (filterQuery source)).result =
      Sequence.filter (fun v _ => (condition.matchesValue v).result) elements >>= fun kept =>
        pure (some (.array kept)) := by
  have hexecute : execute (.array elements) (filterQuery source) =
      Projector.selectElements (some (Condition.ofJson source)) none elements >>= fun r =>
        pure (some r) := rfl
  rw [hexecute, hread, Recorded.result_bind, Projector.selectElements, Recorded.result_bind]
  change (Sequence.filter (fun v _ => condition.matchesValue v) elements >>= fun kept =>
    pure (Json.array kept)).result >>= _ = _
  rw [Recorded.result_bind, Sequence.result_filter, bind_assoc]
  rfl

theorem result_filterQuery_object (source : Json) {members : List Member}
    (hmembers : Member.Ascending members) :
    (execute (.object members) (filterQuery source)).result =
      (Projector.survivors (some (Condition.ofJson source)) members).map fun kept =>
        some (.object kept) := by
  have hselects : Query.ofJson (filterQuery source) = .object (filterQuery source) none
      (.selection (some (Condition.ofJson source)) none none false) := rfl
  rw [result_execute_members hselects rfl hmembers]
  refine (congrArg _ (Projector.outcomes_without_query _ members)).trans ?_
  cases Projector.survivors (some (Condition.ofJson source)) members with
  | error e => rfl
  | ok kept =>
    have hwhole := Projector.filterMap_present_whole kept
    exact congrArg (fun rest => Except.ok (some (Json.object rest))) hwhole

theorem execute_filterQuery_object (hread : Condition.ofJson source = .ok condition)
    {members : List Member} (hmembers : Member.Ascending members) :
    (execute (.object members) (filterQuery source)).result =
      Sequence.filter (fun m _ => (condition.matchesEntry m).result) members >>= fun kept =>
        pure (some (.object kept)) := by
  rw [result_filterQuery_object source hmembers, hread]
  change (Sequence.filter (fun m _ => (condition.matchesEntry m).result) members).map _ = _
  cases Sequence.filter (fun m _ => (condition.matchesEntry m).result) members <;> rfl

end

/-! ## Quantifiers -/

namespace Quantifier

variable {α : Type}

/-- Whether those of a number of items that pass are as many as the quantifier says. -/
def admits (kept : List α) (size : Nat) : Quantifier → Bool
  | .all => kept.length == size
  | .any => !kept.isEmpty
  | .one => kept.length == 1

theorem check_of_filter {test : α → Nat → Except Error Bool} {items kept : List α}
    (h : Sequence.filter test items = .ok kept) (quantifier : Quantifier) :
    quantifier.check test items = .ok (quantifier.admits kept items.length) := by
  cases quantifier with
  | all => exact Sequence.allMatch_of_filter h
  | any => exact Sequence.anyMatch_of_filter h
  | one =>
    rw [check, Sequence.singleMatch_eq_filter, h]
    rfl

end Quantifier

section
variable [Pattern.Engine] {source : Json} {condition : Condition} {key : String}
  {quantifier : Quantifier} {negated : Bool}

theorem isMatch_quantified (hkey : Keyword.ofKey? key = some ⟨.quantified quantifier, negated⟩)
    (hread : Condition.ofJson source = .ok condition) (v : Json) :
    (isMatch v (.object [⟨key, source⟩])).result =
      ((Operator.signed negated (.quantified quantifier condition)).test
        (.root (.value v))).result := by
  rw [isMatch_eq_resultAt, Condition.resultAt_quantified hkey hread, Operator.result_signed,
    Operator.test]

theorem isMatch_indexed_quantified
    (hkey : Keyword.ofKey? key = some ⟨.quantified quantifier, negated⟩)
    (hread : Condition.ofJson source = .ok condition) (members : List Member) :
    (isMatch (.object members) (.object [⟨"$indexAsArray", .object [⟨key, source⟩]⟩])).result =
      ((Operator.signed negated (.quantified quantifier condition)).test
        (.child (.root (.value (.object members))) "$indexAsArray" (.indexed members))).result := by
  rw [isMatch_eq_resultAt, Condition.resultAt_indexed rfl, Condition.resultAt_quantified hkey hread,
    Operator.result_signed, Operator.test]

end

/-! ## One condition in two places -/

section
variable {condition : Condition}

/-- The elements of an array pass below it as they do on their own. -/
theorem Condition.check_elements_agree (hlocal : ∀ r ∈ condition.references, r.IsLocal)
    (elements : List Json) (quantifier : Quantifier) :
    Agree Error.SameButPlace Eq
      (quantifier.check (fun v _ => (condition.matchesValue v).result) elements)
      (quantifier.over condition.test (.root (.value (.array elements)))).result := by
  have htarget : (Cursor.root (.value (.array elements))).node.target =
      .ok (some (.array elements)) := rfl
  rw [quantifier.result_over condition.test htarget]
  refine Quantifier.check_agree ?_ quantifier
  rw [Target.steps, List.forall₂_map_right_iff, List.forall₂_iff_get]
  refine ⟨List.length_range.symm, fun i hi _ _ => ?_⟩
  have hstep : (Cursor.root (.value (.array elements))).stepTo (.index i) =
      .ok (.child (.root (.value (.array elements))) (toString i) (.value elements[i])) := by
    change Except.ok (Cursor.child _ _ (.ofOption elements[i]?)) = _
    rw [List.getElem?_eq_getElem hi]
    rfl
  rw [List.get_eq_getElem, List.get_eq_getElem, List.getElem_range, hstep]
  exact condition.agrees_of_isLocal hlocal (.root (.value elements[i])) (.child _ _ _) rfl

/-- The members of an object pass below its view as a sequence as they do on their own. -/
theorem Condition.check_members_agree (hlocal : ∀ r ∈ condition.references, r.IsLocal)
    (members : List Member) (quantifier : Quantifier) :
    Agree Error.SameButPlace Eq
      (quantifier.check (fun m _ => (condition.matchesEntry m).result) members)
      (quantifier.over condition.test
        (.child (.root (.value (.object members))) "$indexAsArray" (.indexed members))).result := by
  have htarget : (Cursor.child (.root (.value (.object members))) "$indexAsArray"
      (.indexed members)).node.target = .ok (some (.object members)) := rfl
  rw [quantifier.result_over condition.test htarget]
  refine Quantifier.check_agree ?_ quantifier
  rw [Target.steps, List.forall₂_map_right_iff, List.forall₂_same]
  intro m _ _
  exact condition.agrees_of_isLocal hlocal (.root (.entry m)) (.child _ m.key (.entry m)) rfl

end

/-! ## Filters and quantifiers -/

/-- What a filter keeps of a number of elements or members says what the quantifiers answer, by
their keys, and the filter fails exactly if the quantifier does that counts all. -/
structure FilterTallies {α : Type} (wrap : List α → Json) (size : Nat)
    (outcome : Except Error (Option Json)) (answer : String → Except Error Bool) : Prop where
  kept : ∀ r, outcome = .ok (some r) → ∃ kept, r = wrap kept ∧
    answer "$someMatch" = .ok (!kept.isEmpty) ∧ answer "$noneMatch" = .ok kept.isEmpty ∧
    answer "$allMatch" = .ok (kept.length == size) ∧ answer "$singleMatch" = .ok (kept.length == 1)
  fails : (∃ e, outcome = .error e) ↔ ∃ e, answer "$singleMatch" = .error e

theorem FilterTallies.of_agree {α : Type} {test : α → Nat → Except Error Bool} {items : List α}
    {condition : Condition} {c : Cursor} {answer : String → Except Error Bool}
    (wrap : List α → Json)
    (hagree : ∀ quantifier : Quantifier, Agree Error.SameButPlace Eq (quantifier.check test items)
      (quantifier.over condition.test c).result)
    (hanswer : ∀ key quantifier negated,
      Keyword.ofKey? key = some ⟨.quantified quantifier, negated⟩ →
      answer key = ((Operator.signed negated (.quantified quantifier condition)).test c).result) :
    FilterTallies wrap items.length
      (Sequence.filter test items >>= fun kept => pure (some (wrap kept))) answer where
  kept r hr := by
    obtain ⟨kept, hkept, hr⟩ := Except.bind_eq_ok.mp hr
    cases hr
    have hover : ∀ quantifier : Quantifier, (quantifier.over condition.test c).result =
        .ok (quantifier.admits kept items.length) := by
      intro quantifier
      have hquantifier := hagree quantifier
      rw [Quantifier.check_of_filter hkept] at hquantifier
      exact hquantifier.eq_ok
    have hnone : ((Operator.negated (.quantified .any condition)).test c).result =
        .ok kept.isEmpty := by
      change ((Quantifier.any.over condition.test c) >>= fun b => pure !b).result = _
      rw [Recorded.result_bind, hover .any]
      exact congrArg Except.ok (Bool.not_not _)
    rw [hanswer "$someMatch" .any false rfl, hanswer "$noneMatch" .any true rfl,
      hanswer "$allMatch" .all false rfl, hanswer "$singleMatch" .one false rfl]
    exact ⟨kept, rfl, hover .any, hnone, hover .all, hover .one⟩
  fails := by
    have hone := hagree .one
    rw [Quantifier.check, Sequence.singleMatch_eq_filter] at hone
    rw [hanswer "$singleMatch" .one false rfl]
    refine Iff.trans ?_ hone.error_iff
    cases Sequence.filter test items with
    | ok kept => exact iff_of_false nofun nofun
    | error e => exact iff_of_true ⟨e, rfl⟩ ⟨e, rfl⟩

/-- For a condition with local references, filtering an array agrees with the quantifiers on the
array, and filtering an object with the quantifiers on its members. -/
theorem execute_filter_tallies [Pattern.Engine] {source : Json} {condition : Condition}
    (hread : Condition.ofJson source = .ok condition)
    (hlocal : ∀ r ∈ condition.references, r.IsLocal) :
    (∀ elements, FilterTallies .array elements.length
      (execute (.array elements) (filterQuery source)).result fun key =>
        (isMatch (.array elements) (.object [⟨key, source⟩])).result) ∧
    ∀ members, Member.Ascending members → FilterTallies .object members.length
      (execute (.object members) (filterQuery source)).result fun key =>
        (isMatch (.object members)
          (.object [⟨"$indexAsArray", .object [⟨key, source⟩]⟩])).result := by
  refine ⟨fun elements => ?_, fun members hmembers => ?_⟩
  · rw [execute_filterQuery_array hread]
    exact .of_agree .array (Condition.check_elements_agree hlocal elements)
      fun key quantifier negated hkey => isMatch_quantified hkey hread (.array elements)
  · rw [execute_filterQuery_object hread hmembers]
    exact .of_agree .object (Condition.check_members_agree hlocal members)
      fun key quantifier negated hkey => isMatch_indexed_quantified hkey hread members

section
attribute [local instance] Pattern.Engine.plain

/-- The condition not to equal the own field `x`: the element of the array passes, and an entry,
which has no fields, makes the filter and the quantifier fail. -/
theorem execute_filter_tallies_own_field :
    Condition.ofJson (.object [⟨"$ne", .object [⟨"$field", .string "x"⟩]⟩]) =
        .ok (.ofOperator (.negated (.scalar .equal (.reference ⟨"x"⟩)))) ∧
      (∀ r ∈ (Condition.ofOperator
        (.negated (.scalar .equal (.reference ⟨"x"⟩)))).references, r.IsLocal) ∧
      (isMatch (.array [.object [⟨"x", .ofNat 1⟩]])
        (.object [⟨"$singleMatch",
          .object [⟨"$ne", .object [⟨"$field", .string "x"⟩]⟩]⟩])).result = .ok true ∧
      Member.Ascending [⟨"a", .ofNat 1⟩] ∧
      ∃ e, (isMatch (.object [⟨"a", .ofNat 1⟩])
        (.object [⟨"$indexAsArray", .object [⟨"$singleMatch",
          .object [⟨"$ne", .object [⟨"$field", .string "x"⟩]⟩]⟩]⟩])).result = .error e := by
  have hread : Condition.ofJson (.object [⟨"$ne", .object [⟨"$field", .string "x"⟩]⟩]) =
      .ok (.ofOperator (.negated (.scalar .equal (.reference ⟨"x"⟩)))) := rfl
  have hlocal : ∀ r ∈ (Condition.ofOperator
      (.negated (.scalar .equal (.reference ⟨"x"⟩)))).references, r.IsLocal := by
    decide
  have hmembers : Member.Ascending [⟨"a", .ofNat 1⟩] := List.pairwise_singleton _ _
  obtain ⟨harray, hobject⟩ := execute_filter_tallies hread hlocal
  obtain ⟨kept, hkept, -, -, -, hsingle⟩ := (harray [.object [⟨"x", .ofNat 1⟩]]).kept
    (.array [.object [⟨"x", .ofNat 1⟩]]) rfl
  cases hkept
  exact ⟨hread, hlocal, hsingle, hmembers, (hobject _ hmembers).fails.mp ⟨_, rfl⟩⟩

end

end Sift
