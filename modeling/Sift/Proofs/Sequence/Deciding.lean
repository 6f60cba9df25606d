import Sift.Proofs.Recorded

/-!
# What decides a test along a sequence

`allMatch` is decided by the first item that does not pass, `anyMatch` by the first one that does, and
either by a failure before. So items that pass have no part in `allMatch` (`allMatch_remove`), and the
two combinators are dual: with a test and its opposite they are decided by one and the same item, be
it by an answer or by a failure (`allMatch_not`, `anyMatch_not`). The deciding result can be looked up
among the results of all items (`allMatch_eq_find?`). Where no test fails the combinators are the `all`
and `any` of lists.
-/

namespace Sift

theorem Except.map_not_not {ε : Type} (x : Except ε Bool) : (x.map (!·)).map (!·) = x := by
  cases x with
  | ok b => simp [Except.map]
  | error e => rfl

namespace Sequence

variable {ε α : Type}

/-! ## Duality -/

theorem allMatch_not (test : α → Nat → Except ε Bool) (items : List α) :
    allMatch (fun a i => (test a i).map (!·)) items = (anyMatch test items).map (!·) := by
  unfold allMatch anyMatch
  generalize 0 = i
  induction items generalizing i with
  | nil => rfl
  | cons a rest ih =>
    rw [allMatchFrom, anyMatchFrom]
    cases test a i with
    | error e => rfl
    | ok passed =>
      cases passed with
      | true => rfl
      | false => exact ih (i + 1)

theorem anyMatch_not (test : α → Nat → Except ε Bool) (items : List α) :
    anyMatch (fun a i => (test a i).map (!·)) items = (allMatch test items).map (!·) := by
  have hall := allMatch_not (fun a i => (test a i).map (!·)) items
  simp only [Except.map_not_not] at hall
  rw [hall, Except.map_not_not]

/-! ## Tests that do not fail -/

theorem allMatch_eq_all {test : α → Nat → Except ε Bool} {p : α → Bool} {items : List α}
    (h : ∀ a ∈ items, ∀ i, test a i = .ok (p a)) : allMatch test items = .ok (items.all p) := by
  unfold allMatch
  generalize 0 = i
  induction items generalizing i with
  | nil => rfl
  | cons a rest ih =>
    obtain ⟨ha, hrest⟩ := List.forall_mem_cons.mp h
    rw [allMatchFrom, ha, List.all_cons]
    cases p a with
    | true => exact ih hrest (i + 1)
    | false => rfl

theorem anyMatch_eq_any {test : α → Nat → Except ε Bool} {p : α → Bool} {items : List α}
    (h : ∀ a ∈ items, ∀ i, test a i = .ok (p a)) : anyMatch test items = .ok (items.any p) := by
  have hnot : ∀ a ∈ items, ∀ i, (test a i).map (!·) = .ok (!p a) := fun a ha i => by
    rw [h a ha i]
    rfl
  have hall := allMatch_eq_all hnot
  rw [allMatch_not, List.all_eq_not_any_not] at hall
  rw [← Except.map_not_not (anyMatch test items), hall]
  simp [Except.map]

/-! ## The item that decides -/

/-- A test of all items gives the first result that is not that an item passes. -/
theorem allMatch_eq_find? (f : α → Except ε Bool) (items : List α) :
    allMatch (fun a _ => f a) items =
      ((items.map f).find? fun result => result.toOption != some true).getD (.ok true) := by
  unfold allMatch
  generalize 0 = i
  induction items generalizing i with
  | nil => rfl
  | cons a rest ih =>
    rw [allMatchFrom, List.map_cons]
    cases f a with
    | error e => rfl
    | ok passed =>
      cases passed with
      | true => exact ih (i + 1)
      | false => rfl

/-! ## Items that pass -/

theorem allMatchFrom_start (f : α → Except ε Bool) (i j : Nat) (items : List α) :
    allMatchFrom (fun a _ => f a) i items = allMatchFrom (fun a _ => f a) j items := by
  induction items generalizing i j with
  | nil => rfl
  | cons a rest ih =>
    rw [allMatchFrom, allMatchFrom, ih (i + 1) (j + 1)]

theorem allMatch_remove {f : α → Except ε Bool} {a : α} (ha : f a = .ok true)
    (before after : List α) :
    allMatch (fun a _ => f a) (before ++ a :: after) =
      allMatch (fun a _ => f a) (before ++ after) := by
  unfold allMatch
  generalize 0 = i
  induction before generalizing i with
  | nil =>
    rw [List.nil_append, List.nil_append, allMatchFrom, ha]
    exact allMatchFrom_start f (i + 1) i after
  | cons b rest ih =>
    rw [List.cons_append, List.cons_append, allMatchFrom, allMatchFrom, ih (i + 1)]

end Sequence

end Sift
