import Sift.Proofs.Agreement
import Sift.Proofs.Condition.Single
import Sift.Proofs.Cursor.Composition
import Sift.Proofs.Pattern.Plain

/-!
# Nested fields and dotted paths

A condition on the field `q` of the field `p` can be written with one clause in another, or with one
clause at the path `p.q`. The one looks at the field at `p` in between and the other does not, but both
end at the same cursor or fail. There is one difference: where nothing is at `p`, the outer clause
does not hold, while the dotted one meets an expectation that nothing is there. `isMatch_nested_dotted`
says that this is the only one.
-/

namespace Sift

/-! ## The two forms -/

/-- A key of a field clause that is a path from where the clause is tested. -/
structure Path.IsField (path : String) : Prop where
  valid : Path.IsValid path
  not_reserved : isReservedKey path = false
  not_root : ¬['^'] <+: path.toList

namespace Condition

def nestedSource (p q : String) (source : Json) : Json :=
  .object [⟨p, .object [⟨q, source⟩]⟩]

def dottedSource (p q : String) (source : Json) : Json :=
  .object [⟨p ++ "." ++ q, source⟩]

end Condition

def Cursor.Lacks (c : Cursor) (path : String) : Prop :=
  ∃ d, c.follow path = .ok d ∧ d.isPresent = false

/-- The condition expects a field to be missing. -/
def Json.ExpectsMissing (source : Json) : Prop :=
  source.get? "$exists" = some (.bool false)

theorem Path.IsField.dot {p q : String} (hp : IsField p) (hq : IsField q) :
    IsField (p ++ "." ++ q) where
  valid := hp.valid.dot hq.valid
  not_reserved := by
    have hp' := hp.not_reserved
    unfold isReservedKey at hp' ⊢
    rw [hp.valid.head?_dot, hp']
  not_root := Cursor.not_root_dot hp.valid hp.not_root q

/-! ## Reading -/

namespace FieldClause

theorem expectsMissing_iff {source : Json} {expected : Option Bool}
    (h : expectationOf source = .ok expected) : source.ExpectsMissing ↔ expected = some false := by
  unfold Json.ExpectsMissing
  unfold expectationOf at h
  split at h
  next hnone =>
    cases h
    simp [hnone]
  next b hsome =>
    cases h
    simp [hsome]
  next => cases h

variable [Pattern.Engine]

theorem ofMember_rename (name name' : String) (source : Json) :
    ofMember ⟨name', source⟩ =
      (ofMember ⟨name, source⟩).map fun clause => { clause with name := name' } := by
  unfold ofMember
  cases expectationOf source with
  | error e => rfl
  | ok expected =>
    cases Condition.ofJson source with
    | error e => rfl
    | ok condition => rfl

theorem ofMember_eq_ok {name : String} {source : Json} {clause : FieldClause}
    (h : ofMember ⟨name, source⟩ = .ok clause) :
    ∃ expected condition, expectationOf source = .ok expected ∧
      Condition.ofJson source = .ok condition ∧ clause = ⟨name, expected, condition⟩ := by
  unfold ofMember at h
  obtain ⟨expected, hexpected, h⟩ := Except.bind_eq_ok.mp h
  obtain ⟨condition, hcondition, h⟩ := Except.bind_eq_ok.mp h
  cases h
  exact ⟨expected, condition, hexpected, hcondition, rfl⟩

/-- A clause around a field clause expects nothing itself. -/
theorem ofMember_nested {q : String} (hq : isReservedKey q = false) (p : String) (source : Json) :
    ofMember ⟨p, .object [⟨q, source⟩]⟩ =
      (ofMember ⟨q, source⟩).map fun inner => ⟨p, none, .clauses [.field inner]⟩ := by
  have hne : q ≠ "$exists" := by
    rintro rfl
    cases hq
  have hexpected : expectationOf (.object [⟨q, source⟩]) = .ok none := by
    simp [expectationOf, Json.get?, Member.lookup, hne]
  rw [ofMember, hexpected, Condition.ofJson_field hq]
  cases ofMember ⟨q, source⟩ <;> rfl

theorem ofMember_of_expectsMissing {name : String} {source : Json} {condition : Condition}
    (hread : Condition.ofJson source = .ok condition) (hexpects : source.ExpectsMissing) :
    ofMember ⟨name, source⟩ = .ok ⟨name, some false, condition⟩ := by
  have hexpected : expectationOf source = .ok (some false) := by
    unfold expectationOf
    rw [hexpects]
  rw [ofMember, hexpected, hread]
  rfl

end FieldClause

/-! ## Testing -/

namespace Test

theorem result_atPath (path : String) (t : Test) (c : Cursor) :
    (Test.atPath path t c).result =
      if c.node.acceptsFields then c.follow path >>= fun d => (t d).result
      else .error (.notAnObject c.node) := by
  unfold Test.atPath
  split
  · rw [Recorded.result_bind, Recorded.result_ofExcept]
  · rfl

/-- A missing field passes only the expectation that it is missing. -/
theorem ofField_missing (expected : Option Bool) (t : Test) {c : Cursor}
    (hc : c.isPresent = false) :
    Test.ofField expected t c = pure (decide (expected = some false)) := by
  unfold Test.ofField
  rw [hc]
  cases expected with
  | none => rfl
  | some b => cases b <;> rfl

theorem result_ofField_missing (expected : Option Bool) (t : Test) {c : Cursor}
    (hc : c.isPresent = false) :
    (Test.ofField expected t c).result = .ok (decide (expected = some false)) := by
  rw [ofField_missing expected t hc, Recorded.result_pure]

theorem result_ofField_none (t : Test) {c : Cursor} (hc : c.isPresent = true) :
    (Test.ofField none t c).result = (t c).result := by
  unfold Test.ofField
  rw [hc]

end Test

namespace Clause

variable {p q : String} {c d : Cursor} {expected : Option Bool} {condition : Condition}

theorem result_dotted (hp : Path.IsField p) (hq : Path.IsField q)
    (hc : c.node.acceptsFields = true) :
    ((Clause.field ⟨p ++ "." ++ q, expected, condition⟩).test c).result =
      c.follow p >>= fun d => d.follow q >>= fun e =>
        (Test.ofField expected condition.test e).result := by
  have hfollow := Cursor.follow_dot hp.valid hq.valid hp.not_root hq.not_root c
  rw [Clause.test, Test.result_atPath, if_pos hc, hfollow, bind_assoc]
  rfl

/-- The clause for `q` in the clause for `p` looks whether something is at `p`, and what. -/
theorem result_nested (hc : c.node.acceptsFields = true) :
    ((Clause.field ⟨p, none, .clauses [.field ⟨q, expected, condition⟩]⟩).test c).result =
      c.follow p >>= fun d =>
        if d.isPresent then
          if d.node.acceptsFields then
            d.follow q >>= fun e => (Test.ofField expected condition.test e).result
          else .error (.notAnObject d.node)
        else .ok false := by
  rw [Clause.test, Test.result_atPath, if_pos hc]
  congr 1
  funext d
  rw [FieldClause.test_eq]
  by_cases hd : d.isPresent = true
  · rw [Test.result_ofField_none _ hd, Condition.result_clause, Clause.test, Test.result_atPath,
      if_pos hd]
    rfl
  · have hd' : d.isPresent = false := Bool.eq_false_iff.mpr hd
    rw [Test.result_ofField_missing _ _ hd', if_neg hd]
    rfl

theorem result_missing (hq : Path.IsField q) (hd : d.isPresent = false) :
    (d.follow q >>= fun e => (Test.ofField expected condition.test e).result) =
      .ok (decide (expected = some false)) := by
  have hnullish : d.node.isNullish = true := by
    rw [Cursor.node_eq_absent hd]
    rfl
  obtain ⟨e, he, hnode⟩ := Cursor.follow_of_isNullish hnullish hq.valid hq.not_root
  have hmissing : e.isPresent = false := by
    rw [Cursor.isPresent, hnode]
    rfl
  rw [he]
  exact Test.result_ofField_missing expected condition.test hmissing

/-- Where something is at `p`, either it may have fields, or both forms fail. -/
theorem agree_of_present (hq : Path.IsField q) {f : Cursor → Except Error Bool} :
    Agree (fun _ _ => True) Eq
      (if d.node.acceptsFields then d.follow q >>= f else .error (.notAnObject d.node))
      (d.follow q >>= f) := by
  by_cases hd : d.node.acceptsFields = true
  · rw [if_pos hd]
    exact .refl (fun _ => trivial) (fun _ => rfl) _
  · have hd' : d.node.acceptsFields = false := Bool.eq_false_iff.mpr hd
    obtain ⟨e, he⟩ := Cursor.follow_of_not_acceptsFields hd' hq.valid hq.not_root
    rw [if_neg hd, he]
    exact .error trivial

/-- At every cursor the two forms agree, unless the outer field is missing and the inner one is
expected to be. -/
theorem agree_nested_dotted (hp : Path.IsField p) (hq : Path.IsField q)
    (h : ¬(c.Lacks p ∧ expected = some false)) :
    Agree (fun _ _ => True) Eq
      ((Clause.field ⟨p, none, .clauses [.field ⟨q, expected, condition⟩]⟩).test c).result
      ((Clause.field ⟨p ++ "." ++ q, expected, condition⟩).test c).result := by
  by_cases hc : c.node.acceptsFields = true
  · rw [result_nested hc, result_dotted hp hq hc]
    cases hfollow : c.follow p with
    | error e => exact .error trivial
    | ok d =>
      change Agree _ _ (ite _ _ _) (d.follow q >>= _)
      by_cases hd : d.isPresent = true
      · rw [if_pos hd]
        exact agree_of_present hq
      · have hd' : d.isPresent = false := Bool.eq_false_iff.mpr hd
        have hexpected : expected ≠ some false := fun he => h ⟨⟨d, hfollow, hd'⟩, he⟩
        rw [if_neg hd, result_missing hq hd', decide_eq_false hexpected]
        exact .ok rfl
  · rw [Clause.test, Clause.test, Test.result_atPath, Test.result_atPath, if_neg hc, if_neg hc]
    exact .error trivial

/-- Where the outer field is missing and the inner one is expected to be, only the dotted form
holds. -/
theorem result_of_lacks (hp : Path.IsField p) (hq : Path.IsField q)
    (hc : c.node.acceptsFields = true) (hlacks : c.Lacks p) :
    ((Clause.field ⟨p, none, .clauses [.field ⟨q, some false, condition⟩]⟩).test c).result =
      .ok false ∧
    ((Clause.field ⟨p ++ "." ++ q, some false, condition⟩).test c).result = .ok true := by
  obtain ⟨d, hfollow, hd⟩ := hlacks
  have hnot : ¬d.isPresent = true := by rw [hd]; exact Bool.false_ne_true
  rw [result_nested hc, result_dotted hp hq hc, hfollow]
  constructor
  · exact if_neg hnot
  · exact result_missing hq hd

end Clause

/-! ## Matching -/

theorem Cursor.Lacks.acceptsFields {c : Cursor} {p : String} (hp : Path.IsField p)
    (h : c.Lacks p) : c.node.acceptsFields = true := by
  by_contra hc
  obtain ⟨d, hd, -⟩ := h
  have hc' : c.node.acceptsFields = false := Bool.eq_false_iff.mpr hc
  obtain ⟨e, he⟩ := Cursor.follow_of_not_acceptsFields hc' hp.valid hp.not_root
  rw [he] at hd
  cases hd

open Condition in
/-- A condition on a field in a field and the one on the dotted path have one answer, or both fail.
The exception is a missing outer field together with a condition, which must be one that can be read,
that expects the inner field to be missing: then only the dotted form holds. -/
theorem isMatch_nested_dotted [Pattern.Engine] {p q : String} (hp : Path.IsField p) (hq : Path.IsField q)
    (v source : Json) :
    ((∃ condition, Condition.ofJson source = .ok condition) → (Cursor.root (.value v)).Lacks p →
      source.ExpectsMissing →
      (isMatch v (nestedSource p q source)).result = .ok false ∧
      (isMatch v (dottedSource p q source)).result = .ok true) ∧
    (¬((∃ condition, Condition.ofJson source = .ok condition) ∧
        (Cursor.root (.value v)).Lacks p ∧ source.ExpectsMissing) →
      Agree (fun _ _ => True) Eq (isMatch v (nestedSource p q source)).result
        (isMatch v (dottedSource p q source)).result) := by
  unfold nestedSource dottedSource
  rw [isMatch_field hp.not_reserved, isMatch_field (hp.dot hq).not_reserved,
    FieldClause.ofMember_nested hq.not_reserved, FieldClause.ofMember_rename q (p ++ "." ++ q)]
  constructor
  · rintro ⟨condition, hread⟩ hlacks hexpects
    rw [FieldClause.ofMember_of_expectsMissing hread hexpects]
    exact Clause.result_of_lacks hp hq (hlacks.acceptsFields hp) hlacks
  · intro hexcept
    cases hmember : FieldClause.ofMember ⟨q, source⟩ with
    | error e => exact .error trivial
    | ok inner =>
      obtain ⟨expected, condition, hexpected, hread, rfl⟩ := FieldClause.ofMember_eq_ok hmember
      refine Clause.agree_nested_dotted hp hq fun ⟨hlacks, hfalse⟩ => hexcept ?_
      exact ⟨⟨condition, hread⟩, hlacks, (FieldClause.expectsMissing_iff hexpected).mpr hfalse⟩

section
attribute [local instance] Pattern.Engine.plain

/-- In the first value the reference climbs from the inner field to the outer one in both forms. In the
second one there is no outer field. -/
theorem isMatch_nested_dotted_climb :
    Path.IsField "a" ∧ Path.IsField "b" ∧
    (isMatch (.object [⟨"a", .object [⟨"b", .ofNat 1⟩, ⟨"max", .ofNat 2⟩]⟩])
      (Condition.dottedSource "a" "b"
        (.object [⟨"$lt", .object [⟨"$field", .string "../max"⟩]⟩]))).result = .ok true ∧
    (isMatch (.object [])
      (Condition.nestedSource "a" "b" (.object [⟨"$exists", .bool false⟩]))).result = .ok false ∧
    (isMatch (.object [])
      (Condition.dottedSource "a" "b" (.object [⟨"$exists", .bool false⟩]))).result = .ok true := by
  have ha : Path.IsField "a" := ⟨⟨["a"], rfl⟩, rfl, by decide⟩
  have hb : Path.IsField "b" := ⟨⟨["b"], rfl⟩, rfl, by decide⟩
  have hnested : (isMatch (.object [⟨"a", .object [⟨"b", .ofNat 1⟩, ⟨"max", .ofNat 2⟩]⟩])
      (Condition.nestedSource "a" "b"
        (.object [⟨"$lt", .object [⟨"$field", .string "../max"⟩]⟩]))).result = .ok true := rfl
  have hfree : ¬Json.ExpectsMissing (.object [⟨"$lt", .object [⟨"$field", .string "../max"⟩]⟩]) :=
    nofun
  have hagree := (isMatch_nested_dotted ha hb
    (.object [⟨"a", .object [⟨"b", .ofNat 1⟩, ⟨"max", .ofNat 2⟩]⟩]) _).2 fun h => hfree h.2.2
  rw [hnested] at hagree
  exact ⟨ha, hb, hagree.eq_ok,
    (isMatch_nested_dotted ha hb (.object []) _).1 ⟨_, rfl⟩ ⟨_, rfl, rfl⟩ rfl⟩

/-- The condition has to be one that can be read: the unknown operator is an error in both forms, also
where nothing is at the outer field and the inner one is expected to be missing. -/
theorem isMatch_nested_dotted_malformed :
    ¬∀ p q : String, Path.IsField p → Path.IsField q → ∀ v source : Json,
      ((Cursor.root (.value v)).Lacks p → source.ExpectsMissing →
        (isMatch v (Condition.nestedSource p q source)).result = .ok false ∧
        (isMatch v (Condition.dottedSource p q source)).result = .ok true) ∧
      (¬((Cursor.root (.value v)).Lacks p ∧ source.ExpectsMissing) →
        Agree (fun _ _ => True) Eq (isMatch v (Condition.nestedSource p q source)).result
          (isMatch v (Condition.dottedSource p q source)).result) := by
  intro hall
  have ha : Path.IsField "a" := ⟨⟨["a"], rfl⟩, rfl, by decide⟩
  have hb : Path.IsField "b" := ⟨⟨["b"], rfl⟩, rfl, by decide⟩
  have hexception := (hall "a" "b" ha hb (.object [])
    (.object [⟨"$exists", .bool false⟩, ⟨"$nope", .null⟩])).1 ⟨_, rfl, rfl⟩ rfl
  have herror : (isMatch (.object []) (Condition.nestedSource "a" "b"
      (.object [⟨"$exists", .bool false⟩, ⟨"$nope", .null⟩]))).result =
      .error (.unknownOperator "$nope") := rfl
  rw [herror] at hexception
  cases hexception.1

end

end Sift
