import Mathlib.Data.List.Basic
import Sift.Proofs.Recorded

/-!
# What a filter says about the other combinators

Filtering runs the test on every item, so where it ends well the items that it kept answer what the
combinators that stop early ask: whether some item passes (`Sequence.anyMatch_of_filter`) or all do
(`Sequence.allMatch_of_filter`). To ask for a single item is to filter and to count, with the same
failures (`Sequence.singleMatch_eq_filter`). Filtering what was kept keeps all of it
(`Sequence.filter_filter`).
-/

namespace Sift.Sequence

variable {ε α : Type} {test : α → Nat → Except ε Bool} {items kept : List α}

theorem filterFrom_cons_eq_ok {i : Nat} {a : α} (h : filterFrom test i (a :: items) = .ok kept) :
    ∃ b kept', test a i = .ok b ∧ filterFrom test (i + 1) items = .ok kept' ∧
      kept = if b then a :: kept' else kept' := by
  rw [filterFrom] at h
  obtain ⟨b, hb, h⟩ := Except.bind_eq_ok.mp h
  cases b with
  | false => exact ⟨false, kept, hb, h, rfl⟩
  | true =>
    obtain ⟨kept', hkept', h⟩ := Except.bind_eq_ok.mp h
    cases h
    exact ⟨true, kept', hb, hkept', rfl⟩

theorem filterFrom_sublist {i : Nat} (h : filterFrom test i items = .ok kept) :
    kept.Sublist items := by
  induction items generalizing i kept with
  | nil =>
    cases h
    exact .slnil
  | cons a rest ih =>
    obtain ⟨b, kept', -, hkept', rfl⟩ := filterFrom_cons_eq_ok h
    cases b with
    | false => exact (ih hkept').cons a
    | true => exact (ih hkept').cons_cons a

theorem filter_sublist (h : filter test items = .ok kept) : kept.Sublist items :=
  filterFrom_sublist h

theorem anyMatch_of_filter (h : filter test items = .ok kept) :
    anyMatch test items = .ok !kept.isEmpty := by
  unfold filter at h
  unfold anyMatch
  generalize 0 = i at h ⊢
  induction items generalizing i kept with
  | nil =>
    cases h
    rfl
  | cons a rest ih =>
    obtain ⟨b, kept', hb, hkept', rfl⟩ := filterFrom_cons_eq_ok h
    rw [anyMatchFrom, hb]
    cases b with
    | false => exact ih (i + 1) hkept'
    | true => rfl

theorem allMatch_of_filter (h : filter test items = .ok kept) :
    allMatch test items = .ok (kept.length == items.length) := by
  unfold filter at h
  unfold allMatch
  generalize 0 = i at h ⊢
  induction items generalizing i kept with
  | nil =>
    cases h
    rfl
  | cons a rest ih =>
    obtain ⟨b, kept', hb, hkept', rfl⟩ := filterFrom_cons_eq_ok h
    rw [allMatchFrom, hb]
    cases b with
    | false =>
      have hshort : kept'.length < (a :: rest).length :=
        Nat.lt_succ_of_le (filterFrom_sublist hkept').length_le
      exact congrArg Except.ok (beq_false_of_ne (Nat.ne_of_lt hshort)).symm
    | true =>
      refine (ih (i + 1) hkept').trans (congrArg Except.ok ?_)
      rw [if_pos rfl, List.length_cons, List.length_cons, Bool.eq_iff_iff, beq_iff_eq, beq_iff_eq,
        Nat.add_right_cancel_iff]

/-! ## Filtering again -/

section
variable {f : α → Except ε Bool}

theorem filterFrom_passes {i : Nat} (h : filterFrom (fun a _ => f a) i items = .ok kept) :
    ∀ a ∈ kept, f a = .ok true := by
  induction items generalizing i kept with
  | nil =>
    cases h
    exact nofun
  | cons a rest ih =>
    obtain ⟨b, kept', hb, hkept', rfl⟩ := filterFrom_cons_eq_ok h
    cases b with
    | false => exact ih hkept'
    | true => exact List.forall_mem_cons.mpr ⟨hb, ih hkept'⟩

theorem filterFrom_eq_self (h : ∀ a ∈ items, f a = .ok true) (i : Nat) :
    filterFrom (fun a _ => f a) i items = .ok items := by
  induction items generalizing i with
  | nil => rfl
  | cons a rest ih =>
    obtain ⟨ha, hrest⟩ := List.forall_mem_cons.mp h
    rw [filterFrom, ha]
    change (filterFrom (fun a _ => f a) (i + 1) rest >>= fun kept => pure (a :: kept)) = _
    rw [ih hrest (i + 1)]
    rfl

/-- A test that does not look at the index keeps all that it kept. -/
theorem filter_filter (h : filter (fun a _ => f a) items = .ok kept) :
    filter (fun a _ => f a) kept = .ok kept :=
  filterFrom_eq_self (filterFrom_passes h) 0

end

theorem filter_pure_true {m : Type → Type} [Monad m] [LawfulMonad m] (items : List α) :
    filter (fun _ _ => pure true) items = (pure items : m (List α)) := by
  unfold filter
  generalize 0 = i
  induction items generalizing i with
  | nil => rfl
  | cons a rest ih => rw [filterFrom, pure_bind, if_pos rfl, ih, pure_bind]

/-! ## Single items -/

/-- To ask for a single item is to filter and to count what is kept. -/
theorem singleMatch_eq_filter {m : Type → Type} [Monad m] [LawfulMonad m] (test : α → Nat → m Bool)
    (items : List α) :
    singleMatch test items = filter test items >>= fun kept => pure (kept.length == 1) := by
  have hcount : ∀ i count, reduceFrom (fun count a i => test a i >>= fun b =>
      if b then pure (count + 1) else pure count) i count items =
        filterFrom test i items >>= fun kept => pure (count + kept.length) := by
    induction items with
    | nil =>
      intro i count
      rw [reduceFrom, filterFrom, pure_bind]
      rfl
    | cons a rest ih =>
      intro i count
      rw [reduceFrom, filterFrom, bind_assoc, bind_assoc]
      congr 1
      funext b
      cases b with
      | false =>
        rw [if_neg Bool.false_ne_true, if_neg Bool.false_ne_true, pure_bind]
        exact ih (i + 1) count
      | true =>
        rw [if_pos rfl, if_pos rfl, pure_bind, bind_assoc]
        refine (ih (i + 1) (count + 1)).trans ?_
        congr 1
        funext kept
        rw [pure_bind, List.length_cons, Nat.add_assoc, Nat.add_comm 1]
  unfold singleMatch reduce filter
  rw [hcount, bind_assoc]
  congr 1
  funext kept
  rw [pure_bind, Nat.zero_add]

end Sift.Sequence
