import Mathlib.Data.Fintype.Basic
import Mathlib.Data.List.FinRange
import Mathlib.Logic.Equiv.Fin.Basic
import Mathlib.Logic.Equiv.Option

/-!
# Lists that pair off

Two lists pair off if their places correspond one to one, related items to related ones. If items are
related when they look alike, that is so exactly if the two lists of looks are permutations of each
other (`pairOff_iff_perm`).
-/

namespace Sift

variable {α β γ : Type}

/-- The places of the lists correspond one to one, so that items at corresponding places are
related. -/
def PairOff (r : α → β → Prop) (xs : List α) (ys : List β) : Prop :=
  ∃ pairing : Fin xs.length ≃ Fin ys.length, ∀ i, r xs[i] ys[pairing i]

theorem PairOff.of_perm {xs ys : List α} (h : xs.Perm ys) : PairOff Eq xs ys := by
  induction h with
  | nil => exact ⟨Equiv.refl _, fun i => i.elim0⟩
  | @cons x xs ys _ ih =>
    obtain ⟨pairing, hpairing⟩ := ih
    refine ⟨(finSuccEquiv _).trans (pairing.optionCongr.trans (finSuccEquiv _).symm), ?_⟩
    intro i
    cases i using Fin.cases with
    | zero => rfl
    | succ i => exact hpairing i
  | swap x y xs =>
    -- the first two places are exchanged, and the others stay
    refine ⟨Equiv.swap (0 : Fin (xs.length + 2)) 1, fun i => ?_⟩
    change Fin (xs.length + 2) at i
    cases i using Fin.cases with
    | zero => rfl
    | succ i =>
      cases i using Fin.cases with
      | zero => rfl
      | succ i =>
        have hswap : Equiv.swap (0 : Fin (xs.length + 2)) 1 i.succ.succ = i.succ.succ :=
          Equiv.swap_apply_of_ne_of_ne (Fin.succ_ne_zero _) (by simp [Fin.ext_iff])
        change xs[i] = (x :: y :: xs).get (Equiv.swap (0 : Fin (xs.length + 2)) 1 i.succ.succ)
        rw [hswap]
        rfl
  | trans _ _ ih ih' =>
    obtain ⟨pairing, hpairing⟩ := ih
    obtain ⟨pairing', hpairing'⟩ := ih'
    exact ⟨pairing.trans pairing', fun i => (hpairing i).trans (hpairing' (pairing i))⟩

theorem PairOff.perm_map {f : α → γ} {g : β → γ} {xs : List α} {ys : List β}
    (h : PairOff (fun x y => f x = g y) xs ys) : (xs.map f).Perm (ys.map g) := by
  obtain ⟨pairing, hpairing⟩ := h
  have hxs : f ∘ xs.get = (g ∘ ys.get) ∘ pairing := funext hpairing
  have hperm : (xs.map f : Multiset γ) = (ys.map g : Multiset γ) := by
    calc (xs.map f : Multiset γ) = (List.ofFn (f ∘ xs.get) : List γ) := by
          rw [← List.map_ofFn, List.ofFn_get]
      _ = Finset.univ.val.map ((g ∘ ys.get) ∘ pairing) := by rw [← Fin.univ_val_map, hxs]
      _ = (Finset.univ.val.map pairing).map (g ∘ ys.get) := (Multiset.map_map _ _ _).symm
      _ = (List.ofFn (g ∘ ys.get) : List γ) := by rw [Multiset.map_univ_val_equiv, Fin.univ_val_map]
      _ = (ys.map g : Multiset γ) := by rw [← List.map_ofFn, List.ofFn_get]
  exact Multiset.coe_eq_coe.mp hperm

/-- Lists pair off by what their items look like if they look alike up to order. -/
theorem pairOff_iff_perm {f : α → γ} {g : β → γ} {xs : List α} {ys : List β} :
    PairOff (fun x y => f x = g y) xs ys ↔ (xs.map f).Perm (ys.map g) := by
  refine ⟨PairOff.perm_map, fun h => ?_⟩
  obtain ⟨pairing, hpairing⟩ := PairOff.of_perm h
  refine ⟨(finCongr (List.length_map f).symm).trans (pairing.trans (finCongr (List.length_map g))),
    fun i => ?_⟩
  have hi := hpairing (Fin.cast (List.length_map f).symm i)
  simpa using hi

theorem pairOff_congr {r r' : α → β → Prop} {xs : List α} {ys : List β}
    (h : ∀ x ∈ xs, ∀ y ∈ ys, r x y ↔ r' x y) : PairOff r xs ys ↔ PairOff r' xs ys := by
  refine exists_congr fun pairing => forall_congr' fun i => ?_
  exact h _ (List.getElem_mem _) _ (List.getElem_mem _)

end Sift
