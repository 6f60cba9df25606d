import Mathlib.Data.List.Perm.Basic
import Sift.Recorded
import Sift.Sequence.Basic

/-!
# The results of recorded computations

The record of a computation never decides its result: `Recorded.result` turns each way of building
recorded computations into the same way of building plain ones. So what is said about results can be
said about plain computations, with the combinators over sequences included.
-/

namespace Sift

namespace Recorded

variable {ω ε α β : Type}

@[simp] theorem result_pure (a : α) : (Pure.pure a : Recorded ω ε α).result = .ok a := rfl

@[simp] theorem result_bind (x : Recorded ω ε α) (f : α → Recorded ω ε β) :
    (x >>= f).result = x.result >>= fun a => (f a).result := by
  change (Recorded.bind x f).result = _
  unfold Recorded.bind
  cases x.result with
  | ok a => rfl
  | error e => rfl

theorem bind_of_ok {x : Recorded ω ε α} {a : α} (h : x.result = .ok a) (f : α → Recorded ω ε β) :
    x >>= f = ⟨x.log ++ (f a).log, (f a).result⟩ := by
  change Recorded.bind x f = _
  unfold Recorded.bind
  rw [h]

theorem bind_of_error {x : Recorded ω ε α} {e : ε} (h : x.result = .error e)
    (f : α → Recorded ω ε β) : x >>= f = ⟨x.log, .error e⟩ := by
  change Recorded.bind x f = _
  unfold Recorded.bind
  rw [h]

/-- What follows a computation matters for its value only, if it has one. -/
theorem bind_congr_result {x : Recorded ω ε α} {f g : α → Recorded ω ε β}
    (h : ∀ a, x.result = .ok a → f a = g a) : x >>= f = x >>= g := by
  cases hx : x.result with
  | ok a => rw [bind_of_ok hx, bind_of_ok hx, h a hx]
  | error e => rw [bind_of_error hx, bind_of_error hx]

@[simp] theorem result_ofExcept (x : Except ε α) : (ofExcept x : Recorded ω ε α).result = x := rfl

@[simp] theorem result_note (w : ω) : (note w : Recorded ω ε Unit).result = .ok () := rfl

/-- Records are appended, so it does not matter how a sequence of computations is bracketed. -/
instance : LawfulMonad (Recorded ω ε) :=
  LawfulMonad.mk' _
    (by
      rintro α ⟨log, result⟩
      cases result with
      | ok a =>
        change (⟨log ++ [], .ok a⟩ : Recorded ω ε α) = _
        rw [List.append_nil]
      | error e => rfl)
    (fun _ _ => rfl)
    (by
      rintro α β γ ⟨log, result⟩ f g
      cases result with
      | ok a =>
        change Recorded.bind ⟨log ++ (f a).log, (f a).result⟩ g =
          ⟨log ++ (Recorded.bind (f a) g).log, (Recorded.bind (f a) g).result⟩
        unfold Recorded.bind
        cases (f a).result with
        | ok b => simp only [List.append_assoc]
        | error e => rfl
      | error e => rfl)

theorem map_eq (f : α → β) (x : Recorded ω ε α) : f <$> x = ⟨x.log, x.result.map f⟩ := by
  rw [← bind_pure_comp]
  cases hx : x.result with
  | ok a =>
    rw [bind_of_ok hx]
    change (⟨x.log ++ [], .ok (f a)⟩ : Recorded ω ε β) = _
    rw [List.append_nil]
    rfl
  | error e => exact bind_of_error hx _

theorem result_map (f : α → β) (x : Recorded ω ε α) : (f <$> x).result = x.result.map f := by
  rw [map_eq]

theorem result_foldlM {σ : Type} (f : σ → α → Recorded ω ε σ) (state : σ) (items : List α) :
    (items.foldlM f state).result = items.foldlM (fun s a => (f s a).result) state := by
  induction items generalizing state with
  | nil => rfl
  | cons a rest ih =>
    rw [List.foldlM_cons, List.foldlM_cons, result_bind]
    congr 1
    funext state'
    exact ih state'

theorem result_mapM (f : α → Recorded ω ε β) (items : List α) :
    (items.mapM f).result = items.mapM fun a => (f a).result := by
  induction items with
  | nil => rfl
  | cons a rest ih =>
    rw [List.mapM_cons, List.mapM_cons, result_bind]
    congr 1
    funext b
    rw [result_bind, ih]
    rfl

end Recorded

namespace Except

variable {ε α β : Type}

theorem bind_eq_ok {x : Except ε α} {f : α → Except ε β} {b : β} :
    x >>= f = .ok b ↔ ∃ a, x = .ok a ∧ f a = .ok b := by
  cases x with
  | ok a => exact ⟨fun h => ⟨a, rfl, h⟩, fun ⟨_, ha, h⟩ => by cases ha; exact h⟩
  | error e => exact ⟨nofun, nofun⟩

theorem map_eq_ok {x : Except ε α} {f : α → β} {b : β} :
    x.map f = .ok b ↔ ∃ a, x = .ok a ∧ f a = b := by
  cases x with
  | ok a => exact ⟨fun h => ⟨a, rfl, by cases h; rfl⟩, fun ⟨_, ha, h⟩ => by cases ha; rw [← h]; rfl⟩
  | error e => exact ⟨nofun, nofun⟩

theorem map_eq_error {x : Except ε α} {f : α → β} {e : ε} : x.map f = .error e ↔ x = .error e := by
  cases x with
  | ok a => exact iff_of_false nofun nofun
  | error e' => exact ⟨fun h => by cases h; rfl, fun h => by cases h; rfl⟩

theorem map_bind_pure {γ : Type} (x : Except ε α) (f : α → β) (g : β → γ) :
    (x.map f >>= fun b => pure (g b)) = x.map fun a => g (f a) := by
  cases x <;> rfl

/-- What a computation on a sequence keeps at each item holds at its end, of all items. -/
theorem foldlM_invariant {σ : Type} {f : σ → α → Except ε σ} {items : List α}
    (P : List α → σ → Prop)
    (hstep : ∀ done, ∀ a ∈ items, ∀ s s', P done s → f s a = .ok s' → P (done ++ [a]) s')
    {s s' : σ} (hstart : P [] s) (h : items.foldlM f s = .ok s') : P items s' := by
  have hrun : ∀ (rest done : List α) (s : σ), (∀ a ∈ rest, a ∈ items) → P done s →
      rest.foldlM f s = .ok s' → P (done ++ rest) s' := by
    intro rest
    induction rest with
    | nil =>
      intro done s _ hs h
      cases h
      rw [List.append_nil]
      exact hs
    | cons a rest ih =>
      intro done s hmem hs h
      obtain ⟨ha, hmem⟩ := List.forall_mem_cons.mp hmem
      rw [List.foldlM_cons] at h
      obtain ⟨next, hnext, h⟩ := bind_eq_ok.mp h
      have hrest := ih (done ++ [a]) next hmem (hstep done a ha s next hs hnext) h
      rw [List.append_assoc] at hrest
      exact hrest
  exact hrun items [] s (fun _ ha => ha) hstart h

theorem foldlM_congr {σ : Type} {f g : σ → α → Except ε σ} {items : List α}
    (h : ∀ a ∈ items, ∀ s, f s a = g s a) (s : σ) : items.foldlM f s = items.foldlM g s := by
  induction items generalizing s with
  | nil => rfl
  | cons a rest ih =>
    obtain ⟨ha, hrest⟩ := List.forall_mem_cons.mp h
    rw [List.foldlM_cons, List.foldlM_cons, ha]
    congr 1
    funext next
    exact ih hrest next

/-- The first item with one property after items with another one is at the front, or among the rest. -/
theorem exists_first_cons {P S : α → Prop} {first : α} {rest : List α} :
    (∃ before a after, first :: rest = before ++ a :: after ∧ P a ∧ ∀ b ∈ before, S b) ↔
      P first ∨ S first ∧ ∃ before a after, rest = before ++ a :: after ∧ P a ∧ ∀ b ∈ before, S b := by
  constructor
  · rintro ⟨before, a, after, h, ha, hbefore⟩
    cases before with
    | nil =>
      cases h
      exact .inl ha
    | cons b before =>
      cases h
      obtain ⟨hfirst, hbefore⟩ := List.forall_mem_cons.mp hbefore
      exact .inr ⟨hfirst, before, a, after, rfl, ha, hbefore⟩
  · rintro (hfirst | ⟨hfirst, before, a, after, rfl, ha, hbefore⟩)
    · exact ⟨[], first, rest, rfl, hfirst, nofun⟩
    · exact ⟨first :: before, a, after, rfl, ha, List.forall_mem_cons.mpr ⟨hfirst, hbefore⟩⟩

/-- Where no state decides whether a step fails, a loop fails with the first error of a step. -/
theorem foldlM_eq_error_iff {σ : Type} {f : σ → α → Except ε σ} {g : α → Except ε β}
    {add : σ → α → β → σ} (hstep : ∀ s a, f s a = (g a).map (add s a)) {items : List α} {s : σ}
    {e : ε} : items.foldlM f s = .error e ↔
      ∃ before a after, items = before ++ a :: after ∧ g a = .error e ∧
        ∀ b ∈ before, ∃ c, g b = .ok c := by
  induction items generalizing s with
  | nil =>
    refine ⟨nofun, ?_⟩
    rintro ⟨before, a, after, h, -⟩
    exact absurd h (List.ne_nil_of_mem (List.mem_append_right before List.mem_cons_self)).symm
  | cons first rest ih =>
    rw [List.foldlM_cons, hstep, exists_first_cons]
    cases g first with
    | error e' =>
      refine ⟨fun h => by cases h; exact .inl rfl, ?_⟩
      rintro (h | ⟨⟨c, hc⟩, -⟩)
      · cases h
        rfl
      · cases hc
    | ok c =>
      refine Iff.trans (ih (s := add s first c)) ⟨fun h => .inr ⟨⟨c, rfl⟩, h⟩, ?_⟩
      rintro (h | ⟨-, h⟩)
      · cases h
      · exact h

theorem mapM_eq_ok_iff {f : α → Except ε β} {items : List α} {results : List β} :
    items.mapM f = .ok results ↔ List.Forall₂ (fun a b => f a = .ok b) items results := by
  induction items generalizing results with
  | nil => exact ⟨fun h => by cases h; exact .nil, fun h => by cases h; rfl⟩
  | cons a rest ih =>
    rw [List.mapM_cons]
    constructor
    · intro h
      obtain ⟨b, hb, h⟩ := bind_eq_ok.mp h
      obtain ⟨bs, hbs, h⟩ := bind_eq_ok.mp h
      cases h
      exact .cons hb (ih.mp hbs)
    · intro h
      cases h with
      | cons hb hbs => exact bind_eq_ok.mpr ⟨_, hb, bind_eq_ok.mpr ⟨_, ih.mpr hbs, rfl⟩⟩

theorem exists_of_mem_mapM {f : α → Except ε β} {items : List α} {results : List β}
    (h : items.mapM f = .ok results) {b : β} (hb : b ∈ results) : ∃ a ∈ items, f a = .ok b := by
  have hresults := mapM_eq_ok_iff.mp h
  clear h
  induction hresults with
  | nil => cases hb
  | @cons a _ _ _ hab _ ih =>
    obtain rfl | hb := List.mem_cons.mp hb
    · exact ⟨a, List.mem_cons_self, hab⟩
    · obtain ⟨a', ha', hab'⟩ := ih hb
      exact ⟨a', List.mem_cons_of_mem _ ha', hab'⟩

theorem mapM_perm {f : α → Except ε β} {items items' : List α} (hperm : items'.Perm items)
    {results : List β} (h : items.mapM f = .ok results) :
    ∃ results', items'.mapM f = .ok results' ∧ results'.Perm results := by
  obtain ⟨results', hresults', hperm'⟩ := List.perm_comp_forall₂ hperm (mapM_eq_ok_iff.mp h)
  exact ⟨results', mapM_eq_ok_iff.mpr hresults', hperm'⟩

/-- What is computed of each item is computed of itself, if what is computed of one item is. -/
theorem mapM_mapM {f : α → Except ε α} {items results : List α}
    (hf : ∀ a ∈ items, ∀ b, f a = .ok b → f b = .ok b) (h : items.mapM f = .ok results) :
    results.mapM f = .ok results := by
  rw [mapM_eq_ok_iff, List.forall₂_same]
  intro b hb
  obtain ⟨a, ha, hab⟩ := exists_of_mem_mapM h hb
  exact hf a ha b hab

end Except

namespace Recorded

variable {ω ε α β : Type}

theorem result_bind_eq_ok {x : Recorded ω ε α} {f : α → Recorded ω ε β} {b : β} :
    (x >>= f).result = .ok b ↔ ∃ a, x.result = .ok a ∧ (f a).result = .ok b := by
  rw [result_bind, Except.bind_eq_ok]

theorem result_branch {test : Recorded ω ε Bool} {x y : Recorded ω ε α} {a : α}
    (h : (test >>= fun b => if b then x else y).result = .ok a) :
    x.result = .ok a ∨ y.result = .ok a := by
  obtain ⟨b, -, h⟩ := result_bind_eq_ok.mp h
  cases b with
  | false => exact .inr h
  | true => exact .inl h

end Recorded

namespace Sequence

variable {ω ε α σ : Type}

theorem result_allMatch (test : α → Nat → Recorded ω ε Bool) (items : List α) :
    (allMatch test items).result = allMatch (fun a i => (test a i).result) items := by
  unfold allMatch
  generalize 0 = i
  induction items generalizing i with
  | nil => rfl
  | cons a rest ih =>
    simp only [allMatchFrom]
    rw [Recorded.result_bind]
    congr 1
    funext b
    cases b with
    | false => rfl
    | true => exact ih (i + 1)

theorem result_anyMatch (test : α → Nat → Recorded ω ε Bool) (items : List α) :
    (anyMatch test items).result = anyMatch (fun a i => (test a i).result) items := by
  unfold anyMatch
  generalize 0 = i
  induction items generalizing i with
  | nil => rfl
  | cons a rest ih =>
    simp only [anyMatchFrom]
    rw [Recorded.result_bind]
    congr 1
    funext b
    cases b with
    | false => exact ih (i + 1)
    | true => rfl

theorem result_filter (test : α → Nat → Recorded ω ε Bool) (items : List α) :
    (filter test items).result = filter (fun a i => (test a i).result) items := by
  unfold filter
  generalize 0 = i
  induction items generalizing i with
  | nil => rfl
  | cons a rest ih =>
    simp only [filterFrom]
    rw [Recorded.result_bind]
    congr 1
    funext b
    cases b with
    | false => exact ih (i + 1)
    | true =>
      rw [if_pos rfl, Recorded.result_bind, ih (i + 1)]
      rfl

theorem result_reduce (combine : σ → α → Nat → Recorded ω ε σ) (state : σ) (items : List α) :
    (reduce combine state items).result =
      reduce (fun s a i => (combine s a i).result) state items := by
  unfold reduce
  generalize 0 = i
  induction items generalizing i state with
  | nil => rfl
  | cons a rest ih =>
    simp only [reduceFrom]
    rw [Recorded.result_bind]
    congr 1
    funext state'
    exact ih state' (i + 1)

theorem result_singleMatch (test : α → Nat → Recorded ω ε Bool) (items : List α) :
    (singleMatch test items).result = singleMatch (fun a i => (test a i).result) items := by
  unfold singleMatch
  rw [Recorded.result_bind, result_reduce]
  congr 2
  funext count a i
  rw [Recorded.result_bind]
  congr 1
  funext b
  cases b <;> rfl

end Sequence

end Sift
