import Sift.Proofs.Sequence.Filter

/-!
# One pass or two

Items can be filtered and computed with in one pass (`Sequence.select`), or filtered first and computed
with afterwards. The two end well together and give the same then (`Sequence.select_eq_ok_iff`), though
of several failures they may meet another one first. A fold whose step tests an item and then appends
what is computed of it is a pass of this kind (`Sequence.foldlM_select`).
-/

namespace Sift.Sequence

variable {ε α β σ : Type}

/-- What is computed of the items that pass, in order. -/
def select (test : α → Except ε Bool) (f : α → Except ε β) : List α → Except ε (List β)
  | [] => .ok []
  | a :: rest => do
    if ← test a then
      let b ← f a
      let others ← select test f rest
      pure (b :: others)
    else select test f rest

variable {test : α → Except ε Bool} {f : α → Except ε β} {items : List α}
  {results : List β}

theorem filterFrom_cons_of_ok {i : Nat} {a : α} {passed : Bool} (hpassed : test a = .ok passed)
    {kept : List α} (hkept : filterFrom (fun a _ => test a) (i + 1) items = .ok kept) :
    filterFrom (fun a _ => test a) i (a :: items) = .ok (if passed then a :: kept else kept) := by
  refine Except.bind_eq_ok.mpr ⟨passed, hpassed, ?_⟩
  cases passed with
  | false => exact hkept
  | true => exact Except.bind_eq_ok.mpr ⟨kept, hkept, rfl⟩

/-- To compute with the items that pass is to filter them and to compute with what was kept. -/
theorem select_eq_ok_iff : select test f items = .ok results ↔
    ∃ kept, filter (fun a _ => test a) items = .ok kept ∧ kept.mapM f = .ok results := by
  unfold filter
  generalize 0 = i
  induction items generalizing i results with
  | nil =>
    constructor
    · intro h
      cases h
      exact ⟨[], rfl, rfl⟩
    · rintro ⟨kept, hkept, h⟩
      cases hkept
      exact h
  | cons a rest ih =>
    rw [select]
    constructor
    · intro h
      obtain ⟨passed, hpassed, h⟩ := Except.bind_eq_ok.mp h
      cases passed with
      | false =>
        obtain ⟨kept, hkept, hresults⟩ := (ih (i + 1)).mp h
        exact ⟨kept, filterFrom_cons_of_ok hpassed hkept, hresults⟩
      | true =>
        obtain ⟨b, hfirst, h⟩ := Except.bind_eq_ok.mp h
        obtain ⟨others, hothers, h⟩ := Except.bind_eq_ok.mp h
        cases h
        obtain ⟨kept, hkept, hresults⟩ := (ih (i + 1)).mp hothers
        refine ⟨a :: kept, filterFrom_cons_of_ok hpassed hkept, ?_⟩
        exact Except.mapM_eq_ok_iff.mpr (.cons hfirst (Except.mapM_eq_ok_iff.mp hresults))
    · rintro ⟨kept, hkept, h⟩
      obtain ⟨passed, kept', hpassed, hkept', rfl⟩ := filterFrom_cons_eq_ok hkept
      refine Except.bind_eq_ok.mpr ⟨passed, hpassed, ?_⟩
      cases passed with
      | false => exact (ih (i + 1)).mpr ⟨kept', hkept', h⟩
      | true =>
        rw [if_pos rfl, List.mapM_cons] at h
        obtain ⟨b, hfirst, h⟩ := Except.bind_eq_ok.mp h
        obtain ⟨others, hothers, h⟩ := Except.bind_eq_ok.mp h
        refine Except.bind_eq_ok.mpr ⟨b, hfirst, Except.bind_eq_ok.mpr ⟨others, ?_, h⟩⟩
        exact (ih (i + 1)).mpr ⟨kept', hkept', hothers⟩

theorem select_of_ok (g : α → β) (items : List α) :
    select test (fun a => .ok (g a)) items =
      (filter (fun a _ => test a) items).map (List.map g) := by
  unfold filter
  generalize 0 = i
  induction items generalizing i with
  | nil => rfl
  | cons a rest ih =>
    rw [select, filterFrom]
    cases test a with
    | error e => rfl
    | ok passed =>
      cases passed with
      | false => exact ih (i + 1)
      | true =>
        change (select test (fun a => .ok (g a)) rest >>= _) =
          (filterFrom (fun a _ => test a) (i + 1) rest >>= _).map _
        rw [ih (i + 1)]
        cases filterFrom (fun a _ => test a) (i + 1) rest <;> rfl

theorem select_of_passes (h : ∀ a ∈ items, test a = .ok true) : select test f items = items.mapM f := by
  induction items with
  | nil => rfl
  | cons a rest ih =>
    obtain ⟨ha, hrest⟩ := List.forall_mem_cons.mp h
    rw [select, ha, List.mapM_cons, ← ih hrest]
    rfl

/-- A fold that appends what is computed of the items that pass, as long as the state and the items that
are left satisfy an invariant. -/
theorem foldlM_select {step : List σ → α → Except ε (List σ)} (add : β → List σ)
    (P : List σ → List α → Prop)
    (hstep : ∀ s a rest, P s (a :: rest) → step s a =
      test a >>= fun passed => if passed then f a >>= fun b => pure (s ++ add b) else pure s)
    (hskip : ∀ s a rest, P s (a :: rest) → P s rest)
    (hadd : ∀ s a rest b, P s (a :: rest) → f a = .ok b → P (s ++ add b) rest)
    {state : List σ} (hstart : P state items) :
    items.foldlM step state =
      (select test f items).map fun results => state ++ results.flatMap add := by
  induction items generalizing state with
  | nil => exact congrArg Except.ok (List.append_nil state).symm
  | cons a rest ih =>
    rw [List.foldlM_cons, hstep state a rest hstart, select]
    cases test a with
    | error e => rfl
    | ok passed =>
      cases passed with
      | false => exact ih (hskip state a rest hstart)
      | true =>
        cases hb : f a with
        | error e => rfl
        | ok b =>
          change rest.foldlM step (state ++ add b) = (select test f rest >>= _).map _
          rw [ih (hadd state a rest b hstart hb)]
          cases select test f rest with
          | error e => rfl
          | ok results => exact congrArg Except.ok (List.append_assoc state (add b) _)

end Sift.Sequence
