import Sift.Proofs.Recorded

/-!
# Confined computations

What a computation may note, and with which errors it may fail. `FailsOnly Q x` speaks of a plain
computation, and `Recorded.Confined P Q x` of one that keeps a record: all that it notes satisfies
`P`, and an error that ends it satisfies `Q`. Both are kept by every way of putting computations
together, the loops over sequences included, whether they run to their end or not.
-/

namespace Sift

variable {ω ε α β σ : Type} {P : ω → Prop} {Q : ε → Prop}

/-! ## Plain computations -/

/-- The computation fails with errors that satisfy `Q` only. -/
def FailsOnly (Q : ε → Prop) (x : Except ε α) : Prop :=
  ∀ e, x = .error e → Q e

namespace FailsOnly

theorem ok (a : α) : FailsOnly Q (.ok a) := nofun

theorem error {e : ε} (h : Q e) : FailsOnly Q (.error e : Except ε α) := by
  rintro _ ⟨⟩
  exact h

theorem mono {Q' : ε → Prop} {x : Except ε α} (h : FailsOnly Q x) (hQ : ∀ e, Q e → Q' e) :
    FailsOnly Q' x :=
  fun e he => hQ e (h e he)

theorem bind {x : Except ε α} {f : α → Except ε β} (h : FailsOnly Q x)
    (hf : ∀ a, x = .ok a → FailsOnly Q (f a)) : FailsOnly Q (x >>= f) := by
  cases x with
  | ok a => exact hf a rfl
  | error e => exact .error (h e rfl)

theorem bind_ok {x : Except ε α} {a : α} {f : α → Except ε β} (hx : x = .ok a)
    (h : FailsOnly Q (f a)) : FailsOnly Q (x >>= f) := by
  rw [hx]
  exact h

theorem map {x : Except ε α} (h : FailsOnly Q x) (f : α → β) : FailsOnly Q (x.map f) := by
  cases x with
  | ok a => exact .ok (f a)
  | error e => exact .error (h e rfl)

theorem mapM {f : α → Except ε β} {items : List α} (h : ∀ a ∈ items, FailsOnly Q (f a)) :
    FailsOnly Q (items.mapM f) := by
  induction items with
  | nil => exact .ok []
  | cons a rest ih =>
    obtain ⟨ha, hrest⟩ := List.forall_mem_cons.mp h
    rw [List.mapM_cons]
    exact ha.bind fun b _ => (ih hrest).bind fun bs _ => .ok (b :: bs)

theorem foldlM {f : σ → α → Except ε σ} {items : List α} (h : ∀ s, ∀ a ∈ items, FailsOnly Q (f s a))
    (state : σ) : FailsOnly Q (items.foldlM f state) := by
  induction items generalizing state with
  | nil => exact .ok state
  | cons a rest ih =>
    rw [List.foldlM_cons]
    exact (h state a List.mem_cons_self).bind fun s _ =>
      ih (fun s b hb => h s b (List.mem_cons_of_mem a hb)) s

end FailsOnly

/-! ## Computations with a record -/

namespace Recorded

/-- All that is noted satisfies `P`, and the computation fails with errors that satisfy `Q` only. -/
structure Confined (P : ω → Prop) (Q : ε → Prop) (x : Recorded ω ε α) : Prop where
  noted : ∀ w ∈ x.log, P w
  failed : FailsOnly Q x.result

namespace Confined

theorem pure (a : α) : Confined P Q (Pure.pure a : Recorded ω ε α) :=
  ⟨nofun, .ok a⟩

theorem ofExcept {x : Except ε α} (h : FailsOnly Q x) :
    Confined P Q (ofExcept x : Recorded ω ε α) :=
  ⟨nofun, h⟩

theorem note {w : ω} (h : P w) : Confined P Q (note w : Recorded ω ε Unit) :=
  ⟨List.forall_mem_singleton.mpr h, .ok ()⟩

theorem mono {P' : ω → Prop} {Q' : ε → Prop} {x : Recorded ω ε α} (h : Confined P Q x)
    (hP : ∀ w, P w → P' w) (hQ : ∀ e, Q e → Q' e) : Confined P' Q' x :=
  ⟨fun w hw => hP w (h.noted w hw), h.failed.mono hQ⟩

theorem bind {x : Recorded ω ε α} {f : α → Recorded ω ε β} (h : Confined P Q x)
    (hf : ∀ a, x.result = .ok a → Confined P Q (f a)) : Confined P Q (x >>= f) := by
  obtain ⟨log, result⟩ := x
  cases result with
  | ok a =>
    refine ⟨fun w hw => ?_, (hf a rfl).failed⟩
    obtain hw | hw := List.mem_append.mp hw
    · exact h.noted w hw
    · exact (hf a rfl).noted w hw
  | error e => exact ⟨h.noted, .error (h.failed e rfl)⟩

theorem bind_ok {x : Except ε α} {a : α} {f : α → Recorded ω ε β} (hx : x = .ok a)
    (h : Confined P Q (f a)) : Confined P Q (Recorded.ofExcept x >>= f) := by
  rw [hx]
  refine (ofExcept (.ok a)).bind fun b hb => ?_
  cases hb
  exact h

theorem branch {test : Recorded ω ε Bool} {x y : Recorded ω ε α} (h : Confined P Q test)
    (hx : Confined P Q x) (hy : Confined P Q y) :
    Confined P Q (test >>= fun b => if b then x else y) := by
  refine h.bind fun b _ => ?_
  cases b with
  | false => exact hy
  | true => exact hx

/-! ### Loops -/

variable {test : α → Nat → Recorded ω ε Bool} {items : List α}

theorem allMatch (h : ∀ a ∈ items, ∀ i, Confined P Q (test a i)) :
    Confined P Q (Sequence.allMatch test items) := by
  unfold Sequence.allMatch
  generalize 0 = i
  induction items generalizing i with
  | nil => exact .pure true
  | cons a rest ih =>
    obtain ⟨ha, hrest⟩ := List.forall_mem_cons.mp h
    exact (ha i).branch (ih hrest (i + 1)) (.pure false)

theorem anyMatch (h : ∀ a ∈ items, ∀ i, Confined P Q (test a i)) :
    Confined P Q (Sequence.anyMatch test items) := by
  unfold Sequence.anyMatch
  generalize 0 = i
  induction items generalizing i with
  | nil => exact .pure false
  | cons a rest ih =>
    obtain ⟨ha, hrest⟩ := List.forall_mem_cons.mp h
    exact (ha i).branch (.pure true) (ih hrest (i + 1))

theorem filter (h : ∀ a ∈ items, ∀ i, Confined P Q (test a i)) :
    Confined P Q (Sequence.filter test items) := by
  unfold Sequence.filter
  generalize 0 = i
  induction items generalizing i with
  | nil => exact .pure []
  | cons a rest ih =>
    obtain ⟨ha, hrest⟩ := List.forall_mem_cons.mp h
    have hkept := ih hrest (i + 1)
    exact (ha i).branch (hkept.bind fun kept _ => .pure (a :: kept)) hkept

theorem reduce {combine : σ → α → Nat → Recorded ω ε σ}
    (h : ∀ a ∈ items, ∀ s i, Confined P Q (combine s a i)) (state : σ) :
    Confined P Q (Sequence.reduce combine state items) := by
  unfold Sequence.reduce
  generalize 0 = i
  induction items generalizing i state with
  | nil => exact .pure state
  | cons a rest ih =>
    obtain ⟨ha, hrest⟩ := List.forall_mem_cons.mp h
    exact (ha state i).bind fun s _ => ih hrest s (i + 1)

theorem singleMatch (h : ∀ a ∈ items, ∀ i, Confined P Q (test a i)) :
    Confined P Q (Sequence.singleMatch test items) := by
  refine bind (reduce (fun a ha count i => ?_) 0) fun count _ => .pure (count == 1)
  exact (h a ha i).branch (.pure (count + 1)) (.pure count)

theorem mapM {f : α → Recorded ω ε β} (h : ∀ a ∈ items, Confined P Q (f a)) :
    Confined P Q (items.mapM f) := by
  induction items with
  | nil => exact .pure []
  | cons a rest ih =>
    obtain ⟨ha, hrest⟩ := List.forall_mem_cons.mp h
    rw [List.mapM_cons]
    exact ha.bind fun b _ => (ih hrest).bind fun bs _ => .pure (b :: bs)

/-- A loop along which the state and the items that are left satisfy an invariant. -/
theorem foldlM_invariant {f : σ → α → Recorded ω ε σ} (I : σ → List α → Prop)
    (h : ∀ s a rest, a ∈ items → I s (a :: rest) →
      Confined P Q (f s a) ∧ ∀ next, (f s a).result = .ok next → I next rest)
    {state : σ} (hstart : I state items) : Confined P Q (items.foldlM f state) := by
  induction items generalizing state with
  | nil => exact .pure state
  | cons a rest ih =>
    obtain ⟨ha, hnext⟩ := h state a rest List.mem_cons_self hstart
    rw [List.foldlM_cons]
    refine ha.bind fun s hs => ih (fun s b after hb => ?_) (hnext s hs)
    exact h s b after (List.mem_cons_of_mem a hb)

theorem foldlM {f : σ → α → Recorded ω ε σ} (h : ∀ a ∈ items, ∀ s, Confined P Q (f s a))
    (state : σ) : Confined P Q (items.foldlM f state) :=
  foldlM_invariant (fun _ _ => True) (fun s a _ ha _ => ⟨h a ha s, fun _ _ => trivial⟩) trivial

end Confined

end Recorded

end Sift
