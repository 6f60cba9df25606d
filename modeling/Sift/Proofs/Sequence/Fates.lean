import Sift.Proofs.Recorded
import Sift.Proofs.Sequence.Chain

/-!
# The fates of items

Items go through a chain one at a time, so what becomes of each of them can be looked at alone: it comes
out of the last stage, a filter drops it, or a callback fails on it (`Fate`). All it takes from the items
before it is how many of them arrived at each stage. Stages add to the fates (`Chain.fates`), and going
through a chain is going through the fates of its items (`Chain.walk_eq_fates`).
-/

namespace Sift

/-- What becomes of an item: it comes out as an item, or it is dropped, or a callback fails on it. -/
abbrev Fate (ω ε α : Type) := Recorded ω ε (Option α)

namespace Fate

variable {ω ε α β : Type}

def start (a : α) : Recorded ω ε (Option α) :=
  pure (some a)

def next (fate : Fate ω ε α) (stage : α → Fate ω ε β) : Recorded ω ε (Option β) := do
  let arrived ← fate
  arrived.elim (pure none) stage

/-- How many items come out: one or none. -/
def arrivals (fate : Fate ω ε α) : Nat :=
  match fate.result with
  | .ok (some _) => 1
  | _ => 0

theorem arrivals_of_ok {fate : Fate ω ε α} {arrived : Option α} (h : fate.result = .ok arrived) :
    fate.arrivals = arrived.toList.length := by
  rw [arrivals, h]
  cases arrived <;> rfl

def ofMap (f : α → Nat → Recorded ω ε β) (a : α) (i : Nat) : Recorded ω ε (Option β) :=
  some <$> f a i

def ofFilter (test : α → Nat → Recorded ω ε Bool) (a : α) (i : Nat) : Recorded ω ε (Option α) := do
  if ← test a i then pure (some a) else pure none

/-- One more stage, for all items. Its index counts the items that came out before, starting at `i`. -/
def stageFrom (stage : α → Nat → Fate ω ε β) (i : Nat) : List (Fate ω ε α) → List (Fate ω ε β)
  | [] => []
  | fate :: rest => fate.next (stage · i) :: stageFrom stage (i + fate.arrivals) rest

end Fate

namespace Chain

variable {ω ε α β σ τ : Type}

def fates {α : Type} : Chain (Recorded ω ε) α → List (Recorded ω ε (Option α))
  | .items xs => xs.map Fate.start
  | .map source f => Fate.stageFrom (Fate.ofMap f) 0 source.fates
  | .filter source test => Fate.stageFrom (Fate.ofFilter test) 0 source.fates

/-- A visitor sees the item that comes out, and how many came out before. -/
def visitFate (visit : σ → α → Nat → Recorded ω ε (ForInStep σ)) (s : σ × Nat)
    (fate : Fate ω ε α) : Recorded ω ε (ForInStep (σ × Nat)) := do
  let arrived : Option α ← fate
  arrived.elim (pure (.yield s)) fun a => withCount (s.2 + 1) <$> visit s.1 a s.2

def walkFates (visit : σ → α → Nat → Recorded ω ε (ForInStep σ)) (s : σ × Nat) :
    List (Fate ω ε α) → Recorded ω ε (σ × Nat)
  | [] => pure s
  | fate :: rest => do
    match ← visitFate visit s fate with
    | .done s => pure s
    | .yield s => walkFates visit s rest

theorem walkFates_items (visit : σ → α → Nat → Recorded ω ε (ForInStep σ)) (xs : List α) (i : Nat)
    (s : σ) :
    walkList visit i s xs =
      Prod.fst <$> walkFates visit (s, i) (xs.map Fate.start) := by
  induction xs generalizing i s with
  | nil => exact (map_pure Prod.fst (s, i)).symm
  | cons a rest ih =>
    have hvisit : visitFate visit (s, i) (Fate.start a) = withCount (i + 1) <$> visit s a i :=
      pure_bind _ _
    rw [walkList, List.map_cons, walkFates, hvisit, map_bind, bind_map_left]
    congr 1
    funext next
    cases next with
    | done s' => exact (map_pure Prod.fst (s', i + 1)).symm
    | yield s' => exact ih (i + 1) s'

/-- To visit the items that arrive at a stage, with the stage run on the way, is to visit the fates that
the stage leaves. -/
theorem walkFates_stage {stage : α → Nat → Fate ω ε β}
    {outer : τ → α → Nat → Recorded ω ε (ForInStep τ)}
    {visit : σ → β → Nat → Recorded ω ε (ForInStep σ)} (φ : τ × Nat → σ × Nat)
    (h : ∀ t a i, mapStep (fun t => φ (t, i + 1)) <$> outer t a i =
      visitFate visit (φ (t, i)) (stage a i))
    (fates : List (Fate ω ε α)) (t : τ × Nat) :
    φ <$> walkFates outer t fates = walkFates visit (φ t) (Fate.stageFrom stage t.2 fates) := by
  induction fates generalizing t with
  | nil => exact map_pure φ t
  | cons fate rest ih =>
    rw [walkFates, Fate.stageFrom, walkFates, visitFate, visitFate, Fate.next, map_bind]
    simp only [bind_assoc]
    refine Recorded.bind_congr_result fun arrived harrived => ?_
    -- whether an item arrives decides the next index, for the stage as for the visitor in front of it
    rw [Fate.arrivals_of_ok harrived]
    cases arrived with
    | none => exact ih t
    | some a =>
      have hstage := h t.1 a t.2
      rw [visitFate] at hstage
      simp only [Option.elim_some]
      rw [← bind_assoc, ← hstage, bind_map_left, bind_map_left]
      refine Recorded.bind_congr_result fun next _ => ?_
      cases next with
      | done t' => exact map_pure φ (t', t.2 + 1)
      | yield t' => exact ih (t', t.2 + 1)

theorem visitFate_ofMap (f : α → Nat → Recorded ω ε β)
    (visit : σ → β → Nat → Recorded ω ε (ForInStep σ)) (s : σ) (a : α) (i : Nat) :
    mapStep (fun s => (s, i + 1)) <$> (f a i >>= fun b => visit s b i) =
      visitFate visit (s, i) (Fate.ofMap f a i) := by
  have hstep : (mapStep fun s : σ => (s, i + 1)) = withCount (i + 1) := by
    funext next
    cases next <;> rfl
  rw [visitFate, Fate.ofMap, bind_map_left, map_bind, hstep]
  rfl

theorem visitFate_ofFilter (test : α → Nat → Recorded ω ε Bool)
    (visit : σ → α → Nat → Recorded ω ε (ForInStep σ)) (s : σ × Nat) (a : α) (i : Nat) :
    mapStep (fun s => s) <$> filterVisit test visit s a i =
      visitFate visit s (Fate.ofFilter test a i) := by
  have hstep : (mapStep fun s : σ × Nat => s) = id := by
    funext next
    cases next <;> rfl
  rw [hstep, id_map, filterVisit, visitFate, Fate.ofFilter, bind_assoc]
  refine Recorded.bind_congr_result fun passed _ => ?_
  cases passed with
  | false => exact (pure_bind _ _).symm
  | true =>
    rw [if_pos rfl, if_pos rfl, pure_bind, bind_pure_comp]
    rfl

/-- To go through a chain is to go through the fates of its items. -/
theorem walk_eq_fates (chain : Chain (Recorded ω ε) α)
    (visit : σ → α → Nat → Recorded ω ε (ForInStep σ)) (s : σ) :
    chain.walk visit s = Prod.fst <$> walkFates visit (s, 0) chain.fates := by
  induction chain generalizing σ with
  | items xs => exact walkFates_items visit xs 0 s
  | map source f ih =>
    have hstage := walkFates_stage id (fun s a i => visitFate_ofMap f visit s a i) source.fates (s, 0)
    rw [walk_map, ih, fates]
    rw [id_map] at hstage
    exact congrArg (Prod.fst <$> ·) hstage
  | filter source test ih =>
    have hstage := walkFates_stage Prod.fst (fun s a i => visitFate_ofFilter test visit s a i)
      source.fates ((s, 0), 0)
    rw [walk_filter_count, ih, fates]
    exact congrArg (Prod.fst <$> ·) hstage

/-! ## Visits that go on -/

/-- The visits of the fates all go well and none is the last one; the state at the end is known. -/
inductive Passes (visit : σ → α → Nat → Recorded ω ε (ForInStep σ)) :
    σ × Nat → List (Fate ω ε α) → σ × Nat → Prop where
  | nil (s : σ × Nat) : Passes visit s [] s
  | cons {s t u : σ × Nat} {fate : Fate ω ε α} {rest : List (Fate ω ε α)}
      (hvisit : (visitFate visit s fate).result = .ok (.yield t)) (hrest : Passes visit t rest u) :
      Passes visit s (fate :: rest) u

section
variable {visit : σ → α → Nat → Recorded ω ε (ForInStep σ)} {s t : σ × Nat} {fate : Fate ω ε α}
  {fates : List (Fate ω ε α)}

theorem result_visitFate (visit : σ → α → Nat → Recorded ω ε (ForInStep σ)) (s : σ × Nat)
    (fate : Fate ω ε α) :
    (visitFate visit s fate).result = fate.result >>= fun arrived =>
      arrived.elim (.ok (.yield s)) fun a => (visit s.1 a s.2).result.map (withCount (s.2 + 1)) := by
  rw [visitFate, Recorded.result_bind]
  congr 1
  funext arrived
  cases arrived with
  | none => rfl
  | some a => exact Recorded.result_map _ _

theorem Passes.result (h : Passes visit s fates t) : (walkFates visit s fates).result = .ok t := by
  induction h with
  | nil s => rfl
  | cons hvisit _ ih =>
    rw [walkFates, Recorded.result_bind, hvisit]
    exact ih

/-- After a visit that fails or is the last one, the fates that are left have no part in the walk. -/
theorem Passes.stop (h : Passes visit s fates t)
    (hstop : ∀ u, (visitFate visit t fate).result ≠ .ok (.yield u)) (rest : List (Fate ω ε α)) :
    walkFates visit s (fates ++ fate :: rest) = walkFates visit s (fates ++ [fate]) := by
  induction h with
  | nil s =>
    rw [List.nil_append, List.nil_append, walkFates, walkFates]
    refine Recorded.bind_congr_result fun next hnext => ?_
    cases next with
    | done u => rfl
    | yield u => exact absurd hnext (hstop u)
  | cons hvisit _ ih =>
    rw [List.cons_append, List.cons_append, walkFates, walkFates]
    refine Recorded.bind_congr_result fun next hnext => ?_
    rw [hvisit] at hnext
    cases hnext
    exact ih hstop

theorem Passes.result_stop (h : Passes visit s fates t)
    (hstop : ∀ u, (visitFate visit t fate).result ≠ .ok (.yield u)) :
    (walkFates visit s (fates ++ [fate])).result =
      (visitFate visit t fate).result.map ForInStep.run := by
  induction h with
  | nil s =>
    rw [List.nil_append, walkFates, Recorded.result_bind]
    cases hvisit : (visitFate visit s fate).result with
    | error e => rfl
    | ok next =>
      cases next with
      | done u => rfl
      | yield u => exact absurd hvisit (hstop u)
  | cons hvisit _ ih =>
    rw [List.cons_append, walkFates, Recorded.result_bind, hvisit]
    exact ih hstop

theorem Passes.total (visit : σ → α → Nat → Recorded ω ε (ForInStep σ)) (s : σ × Nat)
    (fates : List (Fate ω ε α)) :
    (∃ t, Passes visit s fates t) ∨ ∃ n fate t, Passes visit s (fates.take n) t ∧
      fates[n]? = some fate ∧ ∀ u, (visitFate visit t fate).result ≠ .ok (.yield u) := by
  induction fates generalizing s with
  | nil => exact .inl ⟨s, .nil s⟩
  | cons fate rest ih =>
    by_cases hgoes : ∃ t, (visitFate visit s fate).result = .ok (.yield t)
    · obtain ⟨t, ht⟩ := hgoes
      obtain ⟨u, hu⟩ | ⟨n, fate', u, hu, hfate, hstop⟩ := ih t
      · exact .inl ⟨u, .cons ht hu⟩
      · exact .inr ⟨n + 1, fate', u, .cons ht hu, hfate, hstop⟩
    · exact .inr ⟨0, fate, s, .nil s, rfl, fun u hu => hgoes ⟨u, hu⟩⟩

end

end Chain

end Sift
