import Sift.Sequence.Chain

/-!
# Chains as one loop

The stages of a chain run interleaved, and each counts what arrives at it. Where no callback looks
at its count, a chain is one loop over its items whose body is the stages in turn: a filter becomes a
branch (`Chain.walk_filter`), a map a step in front (`Chain.walk_map`), and combining from the left a
fold (`Chain.walkList_yield`). The counts are dropped by `Chain.walk_map_state`: a walk respects any
map of states that its visitors respect.
-/

namespace Sift

namespace Chain

variable {m : Type → Type} [Monad m] {α β σ τ : Type}

/-! ## Chains by their first stage -/

/-- What a filter does with an item: it counts those that pass and shows only them. -/
def filterVisit (test : α → Nat → m Bool) (visit : σ → α → Nat → m (ForInStep σ))
    (s : σ × Nat) (a : α) (i : Nat) : m (ForInStep (σ × Nat)) := do
  if ← test a i then
    let next ← visit s.1 a s.2
    pure (withCount (s.2 + 1) next)
  else pure (.yield s)

theorem walk_items (xs : List α) (visit : σ → α → Nat → m (ForInStep σ)) (state : σ) :
    (items xs).walk visit state = walkList visit 0 state xs := rfl

theorem walk_map (source : Chain m α) (f : α → Nat → m β) (visit : σ → β → Nat → m (ForInStep σ))
    (state : σ) :
    (source.map f).walk visit state =
      source.walk (fun s a i => f a i >>= fun b => visit s b i) state := rfl

variable [LawfulMonad m]

theorem walk_filter_count (source : Chain m α) (test : α → Nat → m Bool)
    (visit : σ → α → Nat → m (ForInStep σ)) (state : σ) :
    (source.filter test).walk visit state =
      Prod.fst <$> source.walk (filterVisit test visit) (state, 0) := by
  change (source.walk (filterVisit test visit) (state, 0) >>= fun s => pure s.1) = _
  rw [bind_pure_comp]

/-! ## Maps of states -/

def mapStep (φ : τ → σ) : ForInStep τ → ForInStep σ
  | .done t => .done (φ t)
  | .yield t => .yield (φ t)

theorem walkList_map_state (φ : τ → σ) {visit : σ → α → Nat → m (ForInStep σ)}
    {visit' : τ → α → Nat → m (ForInStep τ)}
    (h : ∀ t a i, mapStep φ <$> visit' t a i = visit (φ t) a i) (items : List α) (i : Nat) (t : τ) :
    φ <$> walkList visit' i t items = walkList visit i (φ t) items := by
  induction items generalizing i t with
  | nil => exact map_pure φ t
  | cons a rest ih =>
    rw [walkList, walkList, ← h, map_bind, bind_map_left]
    congr 1
    funext next
    cases next with
    | done t' => exact map_pure φ t'
    | yield t' => exact ih (i + 1) t'

theorem filterVisit_map_state (φ : τ → σ) {visit : σ → α → Nat → m (ForInStep σ)}
    {visit' : τ → α → Nat → m (ForInStep τ)}
    (h : ∀ t a i, mapStep φ <$> visit' t a i = visit (φ t) a i) (test : α → Nat → m Bool)
    (s : τ × Nat) (a : α) (i : Nat) :
    mapStep (Prod.map φ id) <$> filterVisit test visit' s a i =
      filterVisit test visit (Prod.map φ id s) a i := by
  unfold filterVisit
  rw [map_bind]
  congr 1
  funext b
  cases b with
  | false => exact map_pure _ _
  | true =>
    rw [if_pos rfl, if_pos rfl, Prod.map_fst, ← h, map_bind, bind_map_left]
    congr 1
    funext next
    cases next <;> exact map_pure _ _

/-- Visitors that agree up to a map of states do so on a whole chain. -/
theorem walk_map_state (φ : τ → σ) {visit : σ → α → Nat → m (ForInStep σ)}
    {visit' : τ → α → Nat → m (ForInStep τ)}
    (h : ∀ t a i, mapStep φ <$> visit' t a i = visit (φ t) a i) (chain : Chain m α) (t : τ) :
    φ <$> chain.walk visit' t = chain.walk visit (φ t) := by
  induction chain generalizing σ τ with
  | items xs => exact walkList_map_state φ h xs 0 t
  | map source f ih =>
    refine ih φ (fun t a i => ?_) t
    rw [map_bind]
    congr 1
    funext b
    exact h t b i
  | filter source test ih =>
    have hsource := ih (Prod.map φ id) (filterVisit_map_state φ h test) (t, 0)
    rw [Prod.map_apply] at hsource
    rw [walk_filter_count, walk_filter_count, Functor.map_map]
    refine Eq.trans ?_ (congrArg (Prod.fst <$> ·) hsource)
    rw [Functor.map_map]
    rfl

/-! ## Stages that look at no count -/

theorem walk_filter (source : Chain m α) (test : α → m Bool) (visit : σ → α → m (ForInStep σ))
    (state : σ) :
    (source.filter fun a _ => test a).walk (fun s a _ => visit s a) state =
      source.walk (fun s a _ => do
        if ← test a then visit s a else pure (.yield s)) state := by
  rw [walk_filter_count]
  refine walk_map_state Prod.fst (fun s a i => ?_) source (state, 0)
  unfold filterVisit
  rw [map_bind]
  congr 1
  funext b
  cases b with
  | false => exact map_pure _ _
  | true =>
    rw [if_pos rfl, if_pos rfl, map_bind]
    refine Eq.trans (congrArg _ (funext fun next => ?_)) (bind_pure (visit s.1 a))
    rw [map_pure]
    cases next <;> rfl

theorem walkList_yield (step : σ → α → m σ) (xs : List α) (i : Nat) (state : σ) :
    walkList (fun s a _ => do
      let s ← step s a
      pure (.yield s)) i state xs = xs.foldlM step state := by
  induction xs generalizing i state with
  | nil => rfl
  | cons a rest ih =>
    rw [walkList, List.foldlM_cons, bind_assoc]
    congr 1
    funext s
    rw [pure_bind]
    exact ih (i + 1) s

end Chain

end Sift
