import Sift.Proofs.Sequence.Fates

/-!
# Lazy chains and whole lists

A chain can be read as staged: each stage is applied to the whole list that the stage before it left
(`Chain.staged`). Run lazily it gives the same, as long as no callback fails, because then the fates of
the items are what the stages make of them (`Chain.staged_eq_ok_iff`). Otherwise there is a first item on
which a stage fails, or which decides, and the chain runs as if it ended with this item (`Chain.cut`).
`Chain.lazy_eq_staged` states both for all ways to consume a chain; the runs are compared with their
records, so nothing is run on a later item.
-/

namespace Sift

namespace Fate

variable {ω ε α β : Type}

/-- The items that come out, if no callback fails. -/
def outcome : List (Fate ω ε α) → Except ε (List α)
  | [] => .ok []
  | fate :: rest => do
    let arrived : Option α ← fate.result
    let others ← outcome rest
    pure (arrived.toList ++ others)

theorem outcome_cons_eq_ok {fate : Fate ω ε α} {rest : List (Fate ω ε α)} {ys : List α} :
    outcome (fate :: rest) = .ok ys ↔ ∃ arrived others, fate.result = .ok arrived ∧
      outcome rest = .ok others ∧ ys = arrived.toList ++ others := by
  rw [outcome, Except.bind_eq_ok]
  constructor
  · rintro ⟨arrived, harrived, h⟩
    obtain ⟨others, hothers, h⟩ := Except.bind_eq_ok.mp h
    cases h
    exact ⟨arrived, others, harrived, hothers, rfl⟩
  · rintro ⟨arrived, others, harrived, hothers, rfl⟩
    exact ⟨arrived, harrived, Except.bind_eq_ok.mpr ⟨others, hothers, rfl⟩⟩

theorem outcome_start (xs : List α) : outcome (xs.map (start : α → Fate ω ε α)) = .ok xs := by
  induction xs with
  | nil => rfl
  | cons a rest ih => exact outcome_cons_eq_ok.mpr ⟨some a, rest, rfl, ih, rfl⟩

theorem result_next {fate : Fate ω ε α} {arrived : Option α} (h : fate.result = .ok arrived)
    (stage : α → Fate ω ε β) :
    (fate.next stage).result = (arrived.elim (pure none : Recorded ω ε (Option β)) stage).result := by
  rw [next, Recorded.result_bind, h]
  rfl

/-- What comes out of one more stage is what comes out of the stage alone, if it is given all that came
out before. -/
theorem outcome_stageFrom {stage : α → Nat → Fate ω ε β} {i : Nat} {fates : List (Fate ω ε α)}
    {zs : List β} :
    outcome (stageFrom stage i fates) = .ok zs ↔ ∃ ys, outcome fates = .ok ys ∧
      outcome ((ys.zipIdx i).map fun p => stage p.1 p.2) = .ok zs := by
  induction fates generalizing i zs with
  | nil =>
    constructor
    · intro h
      exact ⟨[], rfl, h⟩
    · rintro ⟨ys, hys, h⟩
      cases hys
      exact h
  | cons fate rest ih =>
    rw [stageFrom, outcome_cons_eq_ok]
    constructor
    · rintro ⟨made, others, hmade, hothers, rfl⟩
      obtain ⟨arrived, harrived, hstage⟩ := Recorded.result_bind_eq_ok.mp hmade
      obtain ⟨ys, hys, hothers⟩ := ih.mp hothers
      refine ⟨arrived.toList ++ ys, outcome_cons_eq_ok.mpr ⟨arrived, ys, harrived, hys, rfl⟩, ?_⟩
      rw [arrivals_of_ok harrived] at hothers
      cases arrived with
      | none =>
        cases hstage
        exact hothers
      | some a => exact outcome_cons_eq_ok.mpr ⟨made, others, hstage, hothers, rfl⟩
    · rintro ⟨_, hsplit, h⟩
      obtain ⟨arrived, ys, harrived, hys, rfl⟩ := outcome_cons_eq_ok.mp hsplit
      rw [arrivals_of_ok harrived]
      cases arrived with
      | none =>
        exact ⟨none, zs, result_next harrived _, ih.mpr ⟨ys, hys, h⟩, rfl⟩
      | some a =>
        obtain ⟨made, others, hstage, hothers, rfl⟩ := outcome_cons_eq_ok.mp h
        have hmade := (result_next harrived (stage · i)).trans hstage
        exact ⟨made, others, hmade, ih.mpr ⟨ys, hys, hothers⟩, rfl⟩

theorem outcome_map (f : α → Recorded ω ε β) (xs : List α) :
    outcome (xs.map fun a => (some <$> f a : Recorded ω ε (Option β))) =
      xs.mapM fun a => (f a).result := by
  induction xs with
  | nil => rfl
  | cons a rest ih =>
    rw [List.mapM_cons, List.map_cons, outcome, ih, Recorded.result_map]
    cases (f a).result <;> rfl

theorem outcome_filter (test : α → Nat → Recorded ω ε Bool) (i : Nat) (xs : List α) :
    outcome ((xs.zipIdx i).map fun p => ofFilter test p.1 p.2) =
      Sequence.filterFrom (fun a i => (test a i).result) i xs := by
  induction xs generalizing i with
  | nil => rfl
  | cons a rest ih =>
    rw [List.zipIdx_cons, List.map_cons, outcome, Sequence.filterFrom, ih, ofFilter,
      Recorded.result_bind, bind_assoc]
    congr 1
    funext passed
    cases passed with
    | false => exact bind_pure (Sequence.filterFrom (fun a i => (test a i).result) (i + 1) rest)
    | true => rfl

end Fate

namespace Chain

variable {ω ε α β σ : Type}

/-! ## Stage by stage -/

/-- What comes out of a chain if each stage is applied to the whole list that the stage before it left;
the index of an item is its place in this list. -/
def staged {α : Type} : Chain (Recorded ω ε) α → Except ε (List α)
  | .items xs => .ok xs
  | .map source f => do
    let xs ← source.staged
    xs.zipIdx.mapM fun p => (f p.1 p.2).result
  | .filter source test => do
    let xs ← source.staged
    Sequence.filter (fun a i => (test a i).result) xs

/-- Where no callback fails, the staged reading gives what comes out of the fates, and the other way
round. -/
theorem staged_eq_ok_iff {chain : Chain (Recorded ω ε) α} {ys : List α} :
    chain.staged = .ok ys ↔ Fate.outcome chain.fates = .ok ys := by
  induction chain with
  | items xs => rw [staged, fates, Fate.outcome_start]
  | map source f ih =>
    rw [staged, fates, Fate.outcome_stageFrom, Except.bind_eq_ok]
    refine exists_congr fun xs => and_congr ih ?_
    exact Eq.congr_left (Fate.outcome_map (fun p => f p.1 p.2) xs.zipIdx).symm
  | filter source test ih =>
    rw [staged, fates, Fate.outcome_stageFrom, Except.bind_eq_ok]
    refine exists_congr fun xs => and_congr ih ?_
    exact Eq.congr_left (Fate.outcome_filter test 0 xs).symm

def cut {m : Type → Type} (n : Nat) {α : Type} : Chain m α → Chain m α
  | .items xs => .items (xs.take n)
  | .map source f => .map (source.cut n) f
  | .filter source test => .filter (source.cut n) test

theorem stageFrom_take (stage : α → Nat → Fate ω ε β) (i n : Nat) (fates : List (Fate ω ε α)) :
    Fate.stageFrom stage i (fates.take n) = (Fate.stageFrom stage i fates).take n := by
  induction fates generalizing i n with
  | nil => rw [List.take_nil, Fate.stageFrom, List.take_nil]
  | cons fate rest ih =>
    cases n with
    | zero => rfl
    | succ n => rw [List.take_succ_cons, Fate.stageFrom, Fate.stageFrom, List.take_succ_cons, ih]

theorem fates_cut (n : Nat) (chain : Chain (Recorded ω ε) α) :
    (chain.cut n).fates = chain.fates.take n := by
  induction chain with
  | items xs => rw [cut, fates, fates, List.map_take]
  | map source f ih => rw [cut, fates, fates, ih, stageFrom_take]
  | filter source test ih => rw [cut, fates, fates, ih, stageFrom_take]

/-- On the items before position `n` no callback fails, and `ys` comes out; the item there has a fate. -/
structure Reaches (chain : Chain (Recorded ω ε) α) (n : Nat) (ys : List α) (fate : Fate ω ε α) :
    Prop where
  before : (chain.cut n).staged = .ok ys
  item : chain.fates[n]? = some fate

theorem Reaches.of_outcome {chain : Chain (Recorded ω ε) α} {n : Nat} {ys : List α}
    {fate : Fate ω ε α} (hys : Fate.outcome (chain.fates.take n) = .ok ys)
    (hitem : chain.fates[n]? = some fate) : chain.Reaches n ys fate := by
  rw [← fates_cut, ← staged_eq_ok_iff] at hys
  exact ⟨hys, hitem⟩

theorem Reaches.outcome {chain : Chain (Recorded ω ε) α} {n : Nat} {ys : List α} {fate : Fate ω ε α}
    (h : chain.Reaches n ys fate) : Fate.outcome (chain.fates.take n) = .ok ys := by
  have hbefore := staged_eq_ok_iff.mp h.before
  rwa [fates_cut] at hbefore

/-- A walk that stops at an item is the walk on the chain that ends there. -/
theorem walk_stop {visit : σ → α → Nat → Recorded ω ε (ForInStep σ)} {s : σ} {t : σ × Nat}
    {chain : Chain (Recorded ω ε) α} {n : Nat} {fate : Fate ω ε α}
    (hpasses : Passes visit (s, 0) (chain.fates.take n) t) (hfate : chain.fates[n]? = some fate)
    (hstop : ∀ u, (visitFate visit t fate).result ≠ .ok (.yield u)) :
    chain.walk visit s = (chain.cut (n + 1)).walk visit s ∧
      (chain.walk visit s).result =
        (visitFate visit t fate).result.map fun next => next.run.1 := by
  have hcut : chain.fates.take (n + 1) = chain.fates.take n ++ [fate] := by
    rw [List.take_add_one, hfate]
    rfl
  have hall : chain.fates = chain.fates.take n ++ fate :: chain.fates.drop (n + 1) := by
    rw [← List.singleton_append, ← List.append_assoc, ← hcut, List.take_append_drop]
  have hwalk : walkFates visit (s, 0) chain.fates =
      walkFates visit (s, 0) (chain.fates.take n ++ [fate]) := by
    rw [← hpasses.stop hstop (chain.fates.drop (n + 1)), ← hall]
  constructor
  · rw [walk_eq_fates, walk_eq_fates, fates_cut, hcut, hwalk]
  · rw [walk_eq_fates, hwalk, Recorded.result_map, hpasses.result_stop hstop]
    cases (visitFate visit t fate).result <;> rfl

/-! ## Visitors of whole lists -/

section
variable {visit : σ → α → Nat → Recorded ω ε (ForInStep σ)} {s t : σ × Nat}

theorem passes_iff {fates : List (Fate ω ε α)} :
    Passes visit s fates t ↔
      ∃ ys, Fate.outcome fates = .ok ys ∧ Passes visit s (ys.map Fate.start) t := by
  induction fates generalizing s with
  | nil =>
    constructor
    · intro h
      exact ⟨[], rfl, h⟩
    · rintro ⟨ys, hys, h⟩
      cases hys
      exact h
  | cons fate rest ih =>
    constructor
    · intro h
      cases h with
      | cons hvisit hrest =>
        obtain ⟨ys, hys, hpasses⟩ := ih.mp hrest
        rw [result_visitFate, Except.bind_eq_ok] at hvisit
        obtain ⟨arrived, harrived, hvisit⟩ := hvisit
        refine ⟨arrived.toList ++ ys, Fate.outcome_cons_eq_ok.mpr ⟨_, _, harrived, hys, rfl⟩, ?_⟩
        cases arrived with
        | none =>
          cases hvisit
          exact hpasses
        | some a =>
          refine .cons ?_ hpasses
          rw [result_visitFate]
          exact hvisit
    · rintro ⟨_, hsplit, h⟩
      obtain ⟨arrived, ys, harrived, hys, rfl⟩ := Fate.outcome_cons_eq_ok.mp hsplit
      cases arrived with
      | none =>
        refine .cons ?_ (ih.mpr ⟨ys, hys, h⟩)
        rw [result_visitFate, harrived]
        rfl
      | some a =>
        cases h with
        | cons hvisit hrest =>
          refine .cons ?_ (ih.mpr ⟨ys, hys, hrest⟩)
          rw [result_visitFate] at hvisit ⊢
          rw [harrived]
          exact hvisit

end

theorem result_visitFate_start (visit : σ → α → Nat → Recorded ω ε (ForInStep σ)) (s : σ) (i : Nat)
    (a : α) :
    (visitFate visit (s, i) (Fate.start a)).result =
      (visit s a i).result.map (withCount (i + 1)) :=
  result_visitFate visit (s, i) (Fate.start a)

def reduceVisit (combine : σ → α → Nat → Recorded ω ε σ) (s : σ) (a : α) (i : Nat) :
    Recorded ω ε (ForInStep σ) := do
  let s ← combine s a i
  pure (.yield s)

theorem reduce_eq_walk (chain : Chain (Recorded ω ε) α) (combine : σ → α → Nat → Recorded ω ε σ)
    (s : σ) : chain.reduce combine s = chain.walk (reduceVisit combine) s := rfl

theorem result_visitFate_reduceVisit (combine : σ → α → Nat → Recorded ω ε σ) (s : σ) (i : Nat)
    (fate : Fate ω ε α) :
    (visitFate (reduceVisit combine) (s, i) fate).result = fate.result >>= fun arrived =>
      arrived.elim (.ok (.yield (s, i))) fun a =>
        (combine s a i).result.map fun s => .yield (s, i + 1) := by
  rw [result_visitFate]
  congr 1
  funext arrived
  cases arrived with
  | none => rfl
  | some a =>
    simp only [Option.elim_some]
    rw [reduceVisit, Recorded.result_bind]
    cases (combine s a i).result <;> rfl

theorem visitFate_reduceVisit_total (combine : σ → α → Nat → Recorded ω ε σ) (s : σ) (i : Nat)
    (fate : Fate ω ε α) :
    (∃ u, (visitFate (reduceVisit combine) (s, i) fate).result = .ok (.yield u)) ∨
      ∃ e, (visitFate (reduceVisit combine) (s, i) fate).result = .error e := by
  rw [result_visitFate_reduceVisit]
  cases fate.result with
  | error e => exact .inr ⟨e, rfl⟩
  | ok arrived =>
    cases arrived with
    | none => exact .inl ⟨(s, i), rfl⟩
    | some a =>
      cases hcombine : (combine s a i).result with
      | error e => exact .inr ⟨e, congrArg (Except.map _) hcombine⟩
      | ok s' => exact .inl ⟨(s', i + 1), congrArg (Except.map _) hcombine⟩

theorem visitFate_reduceVisit_error_iff {combine : σ → α → Nat → Recorded ω ε σ} {s : σ} {i : Nat}
    {fate : Fate ω ε α} {e : ε} :
    (visitFate (reduceVisit combine) (s, i) fate).result = .error e ↔ fate.result = .error e ∨
      ∃ a, fate.result = .ok (some a) ∧ (combine s a i).result = .error e := by
  rw [result_visitFate_reduceVisit]
  cases fate.result with
  | error e' =>
    constructor
    · intro h
      cases h
      exact .inl rfl
    · rintro (h | ⟨a, h, -⟩)
      · cases h
        rfl
      · cases h
  | ok arrived =>
    cases arrived with
    | none => exact iff_of_false nofun (by rintro (h | ⟨a, h, -⟩) <;> cases h)
    | some a =>
      refine Iff.trans Except.map_eq_error ⟨fun h => .inr ⟨a, rfl, h⟩, ?_⟩
      rintro (h | ⟨_, h, he⟩)
      · cases h
      · cases h
        exact he

theorem passes_reduceVisit_iff {combine : σ → α → Nat → Recorded ω ε σ} {s : σ} {i : Nat}
    {ys : List α} {t : σ × Nat} :
    Passes (reduceVisit combine) (s, i) (ys.map Fate.start) t ↔ ∃ s',
      Sequence.reduceFrom (fun s a i => (combine s a i).result) i s ys = .ok s' ∧
        t = (s', i + ys.length) := by
  induction ys generalizing s i with
  | nil =>
    constructor
    · intro h
      cases h
      exact ⟨s, rfl, rfl⟩
    · rintro ⟨s', hs', rfl⟩
      cases hs'
      exact .nil (s, i)
  | cons a rest ih =>
    have hvisit : (visitFate (reduceVisit combine) (s, i) (Fate.start a)).result =
        (combine s a i).result.map fun s => .yield (s, i + 1) :=
      result_visitFate_reduceVisit combine s i (Fate.start a)
    have hlength (s' : σ) : (s', i + (a :: rest).length) = (s', i + 1 + rest.length) := by
      rw [List.length_cons, Nat.add_right_comm, Nat.add_assoc]
    rw [List.map_cons, Sequence.reduceFrom]
    constructor
    · intro h
      cases h with
      | cons hnext hrest =>
        rw [hvisit] at hnext
        obtain ⟨next, hcombine, hnext⟩ := Except.map_eq_ok.mp hnext
        cases hnext
        obtain ⟨s', hs', ht⟩ := ih.mp hrest
        exact ⟨s', Except.bind_eq_ok.mpr ⟨next, hcombine, hs'⟩, ht.trans (hlength s').symm⟩
    · rintro ⟨s', hs', ht⟩
      obtain ⟨next, hcombine, hs'⟩ := Except.bind_eq_ok.mp hs'
      refine .cons ?_ (ih.mpr ⟨s', hs', ht.trans (hlength s')⟩)
      rw [hvisit, hcombine]
      rfl

/-- What a chain of answers shows to a search that goes on as long as it meets one of the two answers. -/
def searchVisit (goesOn : Bool) (_ : Bool) (b : Bool) (_ : Nat) : Recorded ω ε (ForInStep Bool) :=
  pure (if b = goesOn then .yield b else .done b)

theorem all_eq_walk (chain : Chain (Recorded ω ε) α) (test : α → Nat → Recorded ω ε Bool) :
    chain.all test = (chain.map test).walk (searchVisit true) true := by
  rw [walk_map, all]
  congr 1
  funext _ a i
  congr 1
  funext b
  cases b <;> rfl

theorem any_eq_walk (chain : Chain (Recorded ω ε) α) (test : α → Nat → Recorded ω ε Bool) :
    chain.any test = (chain.map test).walk (searchVisit false) false := by
  rw [walk_map, any]
  congr 1
  funext _ a i
  congr 1
  funext b
  cases b <;> rfl

theorem passes_searchVisit_iff {goesOn : Bool} {i : Nat} {bs : List Bool} {t : Bool × Nat} :
    Passes (searchVisit goesOn : Bool → Bool → Nat → Recorded ω ε _) (goesOn, i)
      (bs.map Fate.start) t ↔ (∀ b ∈ bs, b = goesOn) ∧ t = (goesOn, i + bs.length) := by
  induction bs generalizing i with
  | nil =>
    constructor
    · intro h
      cases h
      exact ⟨nofun, rfl⟩
    · rintro ⟨-, rfl⟩
      exact .nil (goesOn, i)
  | cons b rest ih =>
    have hvisit : (visitFate (searchVisit goesOn : Bool → Bool → Nat → Recorded ω ε _) (goesOn, i)
        (Fate.start b)).result =
          .ok (withCount (i + 1) (if b = goesOn then .yield b else .done b)) :=
      result_visitFate_start (searchVisit goesOn) goesOn i b
    rw [List.map_cons, List.forall_mem_cons, List.length_cons, Nat.add_comm rest.length,
      ← Nat.add_assoc]
    constructor
    · intro h
      cases h with
      | cons hnext hrest =>
        rw [hvisit] at hnext
        by_cases hb : b = goesOn
        · subst hb
          rw [if_pos rfl] at hnext
          cases hnext
          obtain ⟨hall, ht⟩ := ih.mp hrest
          exact ⟨⟨rfl, hall⟩, ht⟩
        · rw [if_neg hb] at hnext
          cases hnext
    · rintro ⟨⟨rfl, hall⟩, ht⟩
      refine .cons ?_ (ih.mpr ⟨hall, ht⟩)
      rw [hvisit, if_pos rfl]
      rfl

/-! ## Consumers -/

/-- A chain that is consumed as `run` says ends with what its stages give on whole lists, or with the
result at some item, the first one that decides; then the run is that on the chain which ends there. -/
structure Lazily (run : Chain (Recorded ω ε) α → Recorded ω ε β) (chain : Chain (Recorded ω ε) α)
    (whole : β → Prop) (decided : Nat → Except ε β → Prop) : Prop where
  total : (∃ b, whole b) ∨ ∃ n r, decided n r
  of_whole : ∀ b, whole b → (run chain).result = .ok b
  of_decided : ∀ n r, decided n r → (run chain).result = r ∧ run chain = run (chain.cut (n + 1))

def FailsAt (chain : Chain (Recorded ω ε) α) (n : Nat) (e : ε) : Prop :=
  ∃ ys fate, chain.Reaches n ys fate ∧ fate.result = .error e

/-- A stage or the reducer fails on the item at position `n`, and none of them on an item before it. -/
def FailsReducing (chain : Chain (Recorded ω ε) α) (combine : σ → α → Nat → Recorded ω ε σ) (s : σ)
    (n : Nat) (e : ε) : Prop :=
  ∃ ys fate s', chain.Reaches n ys fate ∧
    Sequence.reduce (fun s a i => (combine s a i).result) s ys = .ok s' ∧
    (fate.result = .error e ∨
      ∃ a, fate.result = .ok (some a) ∧ (combine s' a ys.length).result = .error e)

/-- In a chain of answers the item at position `n` gives another answer than `goesOn`, or a stage fails
on it, and all answers before are `goesOn`. -/
def DecidesAt (chain : Chain (Recorded ω ε) Bool) (goesOn : Bool) (n : Nat) (r : Except ε Bool) :
    Prop :=
  ∃ bs fate, chain.Reaches n bs fate ∧ (∀ b ∈ bs, b = goesOn) ∧ fate.result = r.map some ∧
    r ≠ .ok goesOn

section
variable (chain : Chain (Recorded ω ε) α) (combine : σ → α → Nat → Recorded ω ε σ) (s : σ)

theorem lazily_reduce : Lazily (·.reduce combine s) chain
    (fun s' => ∃ ys, chain.staged = .ok ys ∧
      Sequence.reduce (fun s a i => (combine s a i).result) s ys = .ok s')
    (fun n r => ∃ e, r = .error e ∧ chain.FailsReducing combine s n e) where
  total := by
    obtain ⟨t, hpasses⟩ | ⟨n, fate, t, hpasses, hitem, hstop⟩ :=
      Passes.total (reduceVisit combine) (s, 0) chain.fates
    · obtain ⟨ys, hys, hpasses⟩ := passes_iff.mp hpasses
      obtain ⟨s', hs', -⟩ := passes_reduceVisit_iff.mp hpasses
      exact .inl ⟨s', ys, staged_eq_ok_iff.mpr hys, hs'⟩
    · obtain ⟨ys, hys, hpasses⟩ := passes_iff.mp hpasses
      obtain ⟨s', hs', rfl⟩ := passes_reduceVisit_iff.mp hpasses
      have hreaches := Reaches.of_outcome hys hitem
      rw [Nat.zero_add] at hstop
      obtain ⟨e, he⟩ := (visitFate_reduceVisit_total combine s' ys.length fate).resolve_left
        fun ⟨u, hu⟩ => hstop u hu
      exact .inr ⟨n, .error e, e, rfl, ys, fate, s', hreaches, hs',
        (visitFate_reduceVisit_error_iff ..).mp he⟩
  of_whole := by
    rintro s' ⟨ys, hys, hs'⟩
    have hpasses : Passes (reduceVisit combine) (s, 0) chain.fates (s', 0 + ys.length) :=
      passes_iff.mpr ⟨ys, staged_eq_ok_iff.mp hys, passes_reduceVisit_iff.mpr ⟨s', hs', rfl⟩⟩
    rw [reduce_eq_walk, walk_eq_fates, Recorded.result_map, hpasses.result]
    rfl
  of_decided := by
    rintro n _ ⟨e, rfl, ys, fate, s', hreaches, hs', hfails⟩
    have hpasses : Passes (reduceVisit combine) (s, 0) (chain.fates.take n) (s', 0 + ys.length) :=
      passes_iff.mpr ⟨ys, hreaches.outcome, passes_reduceVisit_iff.mpr ⟨s', hs', rfl⟩⟩
    rw [Nat.zero_add] at hpasses
    have hvisit := (visitFate_reduceVisit_error_iff ..).mpr hfails
    have hstop : ∀ u, (visitFate (reduceVisit combine) (s', ys.length) fate).result ≠
        .ok (.yield u) := by
      rw [hvisit]
      exact nofun
    obtain ⟨hcut, hresult⟩ := walk_stop hpasses hreaches.item hstop
    rw [hvisit] at hresult
    exact ⟨hresult, hcut⟩

end

theorem result_visitFate_searchVisit {goesOn : Bool} {i : Nat} {fate : Fate ω ε Bool}
    {r : Except ε Bool} (hfate : fate.result = r.map some) (hr : r ≠ .ok goesOn) :
    (visitFate (searchVisit goesOn) (goesOn, i) fate).result = r.map fun b => .done (b, i + 1) := by
  rw [result_visitFate, hfate]
  cases r with
  | error e => rfl
  | ok b =>
    have hb : b ≠ goesOn := fun h => hr (congrArg Except.ok h)
    change (searchVisit goesOn goesOn b i : Recorded ω ε _).result.map (withCount (i + 1)) = _
    rw [searchVisit, if_neg hb]
    rfl

theorem decides_of_stop {goesOn : Bool} {i : Nat} {fate : Fate ω ε Bool}
    (hstop : ∀ u, (visitFate (searchVisit goesOn) (goesOn, i) fate).result ≠ .ok (.yield u)) :
    ∃ r : Except ε Bool, fate.result = r.map some ∧ r ≠ .ok goesOn := by
  rw [result_visitFate] at hstop
  cases hfate : fate.result with
  | error e => exact ⟨.error e, rfl, nofun⟩
  | ok arrived =>
    rw [hfate] at hstop
    cases arrived with
    | none => exact absurd rfl (hstop (goesOn, i))
    | some b =>
      refine ⟨.ok b, rfl, fun hr => absurd ?_ (hstop (goesOn, i + 1))⟩
      change (searchVisit goesOn goesOn b i : Recorded ω ε _).result.map (withCount (i + 1)) = _
      rw [searchVisit, Except.ok.inj hr, if_pos rfl]
      rfl

theorem lazily_search (chain : Chain (Recorded ω ε) Bool) (goesOn : Bool) :
    Lazily (·.walk (searchVisit goesOn) goesOn) chain
      (fun b => b = goesOn ∧ ∃ bs, chain.staged = .ok bs ∧ ∀ b ∈ bs, b = goesOn)
      (chain.DecidesAt goesOn) where
  total := by
    obtain ⟨t, hpasses⟩ | ⟨n, fate, t, hpasses, hitem, hstop⟩ :=
      Passes.total (searchVisit goesOn) (goesOn, 0) chain.fates
    · obtain ⟨bs, hbs, hpasses⟩ := passes_iff.mp hpasses
      obtain ⟨hall, -⟩ := passes_searchVisit_iff.mp hpasses
      exact .inl ⟨goesOn, rfl, bs, staged_eq_ok_iff.mpr hbs, hall⟩
    · obtain ⟨bs, hbs, hpasses⟩ := passes_iff.mp hpasses
      obtain ⟨hall, rfl⟩ := passes_searchVisit_iff.mp hpasses
      obtain ⟨r, hfate, hr⟩ := decides_of_stop hstop
      exact .inr ⟨n, r, bs, fate, .of_outcome hbs hitem, hall, hfate, hr⟩
  of_whole := by
    rintro b ⟨hb, bs, hbs, hall⟩
    have hpasses : Passes (searchVisit goesOn) (goesOn, 0) chain.fates (goesOn, 0 + bs.length) :=
      passes_iff.mpr ⟨bs, staged_eq_ok_iff.mp hbs, passes_searchVisit_iff.mpr ⟨hall, rfl⟩⟩
    rw [walk_eq_fates, Recorded.result_map, hpasses.result, hb]
    rfl
  of_decided := by
    rintro n r ⟨bs, fate, hreaches, hall, hfate, hr⟩
    have hpasses : Passes (searchVisit goesOn) (goesOn, 0) (chain.fates.take n)
        (goesOn, 0 + bs.length) :=
      passes_iff.mpr ⟨bs, hreaches.outcome, passes_searchVisit_iff.mpr ⟨hall, rfl⟩⟩
    have hvisit : (visitFate (searchVisit goesOn) (goesOn, 0 + bs.length) fate).result =
        r.map fun b => .done (b, 0 + bs.length + 1) :=
      result_visitFate_searchVisit hfate hr
    have hstop : ∀ u, (visitFate (searchVisit goesOn) (goesOn, 0 + bs.length) fate).result ≠
        .ok (.yield u) := by
      rw [hvisit]
      cases r <;> exact nofun
    obtain ⟨hcut, hresult⟩ := walk_stop hpasses hreaches.item hstop
    rw [hvisit] at hresult
    refine ⟨hresult.trans ?_, hcut⟩
    cases r <;> rfl

/-! ## From one consumer to another -/

theorem Lazily.congr {run run' : Chain (Recorded ω ε) α → Recorded ω ε β}
    {chain : Chain (Recorded ω ε) α} {whole whole' : β → Prop}
    {decided decided' : Nat → Except ε β → Prop}
    (h : Lazily run chain whole decided) (hrun : run' = run) (hwhole : ∀ b, whole' b ↔ whole b)
    (hdecided : ∀ n r, decided' n r ↔ decided n r) : Lazily run' chain whole' decided' := by
  obtain rfl : whole' = whole := funext fun b => propext (hwhole b)
  obtain rfl : decided' = decided := funext fun n => funext fun r => propext (hdecided n r)
  rw [hrun]
  exact h

/-- A consumer that goes on computing with the result of another one. -/
theorem Lazily.map {run : Chain (Recorded ω ε) α → Recorded ω ε σ} {chain : Chain (Recorded ω ε) α}
    {whole : σ → Prop} {fails : Nat → ε → Prop}
    (h : Lazily run chain whole fun n r => ∃ e, r = .error e ∧ fails n e) (f : σ → β) :
    Lazily (fun chain => f <$> run chain) chain (fun b => ∃ s, whole s ∧ b = f s)
      (fun n r => ∃ e, r = .error e ∧ fails n e) where
  total := by
    obtain ⟨s, hs⟩ | ⟨n, _, e, -, he⟩ := h.total
    · exact .inl ⟨f s, s, hs, rfl⟩
    · exact .inr ⟨n, .error e, e, rfl, he⟩
  of_whole := by
    rintro _ ⟨s, hs, rfl⟩
    rw [Recorded.result_map, h.of_whole s hs]
    rfl
  of_decided := by
    rintro n _ ⟨e, rfl, he⟩
    obtain ⟨hresult, hcut⟩ := h.of_decided n (.error e) ⟨e, rfl, he⟩
    constructor
    · rw [Recorded.result_map, hresult]
      rfl
    · exact congrArg (f <$> ·) hcut

/-- A consumer whose callback is one more stage in front of another consumer. -/
theorem Lazily.of_map {run : Chain (Recorded ω ε) β → Recorded ω ε σ}
    {run' : Chain (Recorded ω ε) α → Recorded ω ε σ} {f : α → Nat → Recorded ω ε β}
    (hrun : ∀ chain, run' chain = run (chain.map f)) {chain : Chain (Recorded ω ε) α}
    {whole : σ → Prop} {decided : Nat → Except ε σ → Prop} (h : Lazily run (chain.map f) whole decided) :
    Lazily run' chain whole decided where
  total := h.total
  of_whole := by
    intro b hb
    rw [hrun]
    exact h.of_whole b hb
  of_decided := by
    intro n r hr
    rw [hrun, hrun]
    exact h.of_decided n r hr

theorem reduce_pure (g : σ → α → σ) (s : σ) (ys : List α) :
    Sequence.reduce (fun s a _ => (pure (g s a) : Recorded ω ε σ).result) s ys =
      .ok (ys.foldl g s) := by
  unfold Sequence.reduce
  generalize 0 = i
  induction ys generalizing i s with
  | nil => rfl
  | cons a rest ih => exact ih (g s a) (i + 1)

/-- Where the reducer never fails, what counts is whether a stage does. -/
theorem lazily_fold (chain : Chain (Recorded ω ε) α) (g : σ → α → σ) (s : σ) :
    Lazily (·.reduce (fun s a _ => pure (g s a)) s) chain
      (fun s' => ∃ ys, chain.staged = .ok ys ∧ s' = ys.foldl g s)
      (fun n r => ∃ e, r = .error e ∧ chain.FailsAt n e) := by
  refine (lazily_reduce chain (fun s a _ => pure (g s a)) s).congr rfl (fun s' => ?_) fun n r => ?_
  · refine exists_congr fun ys => and_congr_right fun _ => ?_
    rw [reduce_pure, Except.ok.injEq, eq_comm]
  · refine exists_congr fun e => and_congr_right fun _ => ?_
    constructor
    · rintro ⟨ys, fate, hreaches, hfate⟩
      exact ⟨ys, fate, ys.foldl g s, hreaches, reduce_pure g s ys, .inl hfate⟩
    · rintro ⟨ys, fate, s', hreaches, -, hfate | ⟨a, -, hnever⟩⟩
      · exact ⟨ys, fate, hreaches, hfate⟩
      · cases hnever

theorem lazily_toList (chain : Chain (Recorded ω ε) α) :
    Lazily (·.toList) chain (chain.staged = .ok ·)
      (fun n r => ∃ e, r = .error e ∧ chain.FailsAt n e) := by
  have hreverse (xs : List α) : xs.foldl (fun done a => a :: done) [] = xs.reverse := by
    rw [List.foldl_flip_cons_eq_append', List.append_nil]
  have hfold := (lazily_fold chain (fun done a => a :: done) []).map List.reverse
  refine hfold.congr ?_ (fun ys => ?_) fun n r => Iff.rfl
  · funext chain
    exact bind_pure_comp _ _
  · constructor
    · intro h
      exact ⟨ys.reverse, ⟨ys, h, (hreverse ys).symm⟩, ys.reverse_reverse.symm⟩
    · rintro ⟨_, ⟨xs, hxs, rfl⟩, rfl⟩
      rw [hreverse, List.reverse_reverse]
      exact hxs

theorem single_eq_map (test : α → Nat → Recorded ω ε Bool) (chain : Chain (Recorded ω ε) α) :
    chain.single test = (· == 1) <$>
      (chain.map test).reduce (fun count b _ => pure (if b then count + 1 else count)) 0 := by
  rw [single, reduce, reduce, walk_map, bind_pure_comp]
  congr 2
  funext count a i
  rw [bind_assoc]
  congr 1
  funext b
  cases b <;> rfl

theorem foldl_count (bs : List Bool) (n : Nat) :
    bs.foldl (fun count b => if b then count + 1 else count) n = n + bs.count true := by
  induction bs generalizing n with
  | nil => rfl
  | cons b rest ih =>
    rw [List.foldl_cons, ih, List.count_cons]
    cases b
    · rfl
    · exact Nat.add_right_comm n 1 _

theorem lazily_single (chain : Chain (Recorded ω ε) α) (test : α → Nat → Recorded ω ε Bool) :
    Lazily (·.single test) chain
      (fun b => ∃ bs, (chain.map test).staged = .ok bs ∧ b = (bs.count true == 1))
      (fun n r => ∃ e, r = .error e ∧ (chain.map test).FailsAt n e) := by
  have hfold := (lazily_fold (chain.map test) (fun count b => if b then count + 1 else count) 0).map
    (· == 1)
  refine (hfold.of_map (single_eq_map test)).congr rfl (fun b => ?_) fun n r => Iff.rfl
  constructor
  · rintro ⟨bs, hbs, rfl⟩
    exact ⟨_, ⟨bs, hbs, rfl⟩, by rw [foldl_count, Nat.zero_add]⟩
  · rintro ⟨_, ⟨bs, hbs, rfl⟩, rfl⟩
    exact ⟨bs, hbs, by rw [foldl_count, Nat.zero_add]⟩

theorem lazily_all (chain : Chain (Recorded ω ε) α) (test : α → Nat → Recorded ω ε Bool) :
    Lazily (·.all test) chain
      (fun b => b = true ∧ ∃ bs, (chain.map test).staged = .ok bs ∧ ∀ b ∈ bs, b = true)
      ((chain.map test).DecidesAt true) :=
  (lazily_search (chain.map test) true).of_map fun chain => all_eq_walk chain test

theorem lazily_any (chain : Chain (Recorded ω ε) α) (test : α → Nat → Recorded ω ε Bool) :
    Lazily (·.any test) chain
      (fun b => b = false ∧ ∃ bs, (chain.map test).staged = .ok bs ∧ ∀ b ∈ bs, b = false)
      ((chain.map test).DecidesAt false) :=
  (lazily_search (chain.map test) false).of_map fun chain => any_eq_walk chain test

/-- A chain that is listed, counted or combined has the result of its stages on whole lists, if none of
them fails; otherwise it fails as the stages do on the first item on which one of them fails. A search
ends with the first item whose answer decides or on which a stage fails. Whenever there is such an item,
the run is that on the chain which ends with it, with its record. To filter by nothing is to leave the
chain as it is. -/
theorem lazy_eq_staged (chain : Chain (Recorded ω ε) α) :
    Lazily (·.toList) chain (chain.staged = .ok ·)
      (fun n r => ∃ e, r = .error e ∧ chain.FailsAt n e) ∧
    (∀ test, Lazily (·.single test) chain
      (fun b => ∃ bs, (chain.map test).staged = .ok bs ∧ b = (bs.count true == 1))
      (fun n r => ∃ e, r = .error e ∧ (chain.map test).FailsAt n e)) ∧
    (∀ (σ : Type) (combine : σ → α → Nat → Recorded ω ε σ) (s : σ),
      Lazily (·.reduce combine s) chain
        (fun s' => ∃ ys, chain.staged = .ok ys ∧
          Sequence.reduce (fun s a i => (combine s a i).result) s ys = .ok s')
        (fun n r => ∃ e, r = .error e ∧ chain.FailsReducing combine s n e)) ∧
    (∀ test, Lazily (·.all test) chain
      (fun b => b = true ∧ ∃ bs, (chain.map test).staged = .ok bs ∧ ∀ b ∈ bs, b = true)
      ((chain.map test).DecidesAt true)) ∧
    (∀ test, Lazily (·.any test) chain
      (fun b => b = false ∧ ∃ bs, (chain.map test).staged = .ok bs ∧ ∀ b ∈ bs, b = false)
      ((chain.map test).DecidesAt false)) ∧
    ∀ (χ : Type) (test : χ → α → Nat → Recorded ω ε Bool),
      chain.maybeFilter none test = chain ∧
        ∀ x, chain.maybeFilter (some x) test = chain.filter (test x) :=
  ⟨lazily_toList chain, lazily_single chain, fun _ => lazily_reduce chain, lazily_all chain,
    lazily_any chain, fun _ _ => ⟨rfl, fun _ => rfl⟩⟩

/-- The third item fails, so the fourth one is not looked at. -/
example : ((Chain.items [1, 2, 0, 3]).map fun a i => do
    Recorded.note a
    if a = 0 then Recorded.ofExcept (.error "zero") else pure (a + i)).toList =
      (⟨[1, 2, 0], .error "zero"⟩ : Recorded Nat String (List Nat)) := rfl

end Chain

end Sift
