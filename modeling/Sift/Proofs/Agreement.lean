import Mathlib.Data.List.Forall2
import Sift.Sequence.Basic

/-!
# Outcomes that agree

`Agree E R x y` compares the outcomes of two runs: both are values related by `R`, or both are
errors related by `E`. Running on from outcomes that agree, in ways that agree, ends in outcomes
that agree (`Agree.bind`); so do the combinators over two sequences that match item by item.
-/

namespace Sift

/-- Both outcomes are values, which are related, or both are errors, which are. -/
inductive Agree {ε α β : Type} (E : ε → ε → Prop) (R : α → β → Prop) :
    Except ε α → Except ε β → Prop where
  | ok {a : α} {b : β} : R a b → Agree E R (.ok a) (.ok b)
  | error {e e' : ε} : E e e' → Agree E R (.error e) (.error e')

namespace Agree

variable {ε α β γ δ : Type} {E : ε → ε → Prop} {R : α → β → Prop} {S : γ → δ → Prop}

theorem refl {E : ε → ε → Prop} (hE : ∀ e, E e e) {R : α → α → Prop} (hR : ∀ a, R a a)
    (x : Except ε α) : Agree E R x x := by
  cases x with
  | ok a => exact .ok (hR a)
  | error e => exact .error (hE e)

theorem eq {x y : Except ε α} (h : Agree Eq Eq x y) : x = y := by
  cases h with
  | ok h => rw [h]
  | error h => rw [h]

theorem eq_ok {a : α} {y : Except ε α} (h : Agree E Eq (.ok a) y) : y = .ok a := by
  cases h with
  | ok h => rw [h]

theorem error_iff {x : Except ε α} {y : Except ε β} (h : Agree E R x y) :
    (∃ e, x = .error e) ↔ ∃ e, y = .error e := by
  cases h with
  | ok _ => exact iff_of_false nofun nofun
  | error _ => exact iff_of_true ⟨_, rfl⟩ ⟨_, rfl⟩

theorem bind {x : Except ε α} {y : Except ε β} {f : α → Except ε γ} {g : β → Except ε δ}
    (h : Agree E R x y) (hk : ∀ a b, R a b → Agree E S (f a) (g b)) :
    Agree E S (x >>= f) (y >>= g) := by
  cases h with
  | ok h => exact hk _ _ h
  | error h => exact .error h

theorem map {x : Except ε α} {y : Except ε β} {f : α → γ} {g : β → δ} (h : Agree E R x y)
    (hk : ∀ a b, R a b → S (f a) (g b)) : Agree E S (x.map f) (y.map g) := by
  cases h with
  | ok h => exact .ok (hk _ _ h)
  | error h => exact .error h

/-! ## Sequences -/

variable {f : α → Nat → Except ε Bool} {g : β → Nat → Except ε Bool} {as : List α} {bs : List β}

theorem allMatch (h : List.Forall₂ (fun a b => ∀ i, Agree E Eq (f a i) (g b i)) as bs) :
    Agree E Eq (Sequence.allMatch f as) (Sequence.allMatch g bs) := by
  unfold Sequence.allMatch
  generalize 0 = i
  induction h generalizing i with
  | nil => exact .ok rfl
  | cons hab _ ih =>
    refine bind (hab i) ?_
    rintro b _ rfl
    cases b with
    | false => exact .ok rfl
    | true => exact ih (i + 1)

theorem anyMatch (h : List.Forall₂ (fun a b => ∀ i, Agree E Eq (f a i) (g b i)) as bs) :
    Agree E Eq (Sequence.anyMatch f as) (Sequence.anyMatch g bs) := by
  unfold Sequence.anyMatch
  generalize 0 = i
  induction h generalizing i with
  | nil => exact .ok rfl
  | cons hab _ ih =>
    refine bind (hab i) ?_
    rintro b _ rfl
    cases b with
    | false => exact ih (i + 1)
    | true => exact .ok rfl

theorem reduce {f : γ → α → Nat → Except ε γ} {g : δ → β → Nat → Except ε δ} {s : γ} {t : δ}
    (hst : S s t) (h : List.Forall₂
      (fun a b => ∀ s t i, S s t → Agree E S (f s a i) (g t b i)) as bs) :
    Agree E S (Sequence.reduce f s as) (Sequence.reduce g t bs) := by
  unfold Sequence.reduce
  generalize 0 = i
  induction h generalizing i s t with
  | nil => exact .ok hst
  | cons hab _ ih => exact bind (hab s t i hst) fun s' t' hst' => ih hst' (i + 1)

theorem singleMatch (h : List.Forall₂ (fun a b => ∀ i, Agree E Eq (f a i) (g b i)) as bs) :
    Agree E Eq (Sequence.singleMatch f as) (Sequence.singleMatch g bs) := by
  unfold Sequence.singleMatch
  refine bind (reduce (S := Eq) rfl (h.imp fun a b hab => ?_)) ?_
  · rintro count _ i rfl
    refine bind (hab i) ?_
    rintro b _ rfl
    cases b <;> exact .ok rfl
  · rintro count _ rfl
    exact .ok rfl

theorem mapM {f : γ → Except ε α} {g : δ → Except ε β} {cs : List γ} {ds : List δ}
    (h : List.Forall₂ (fun c d => Agree E R (f c) (g d)) cs ds) :
    Agree E (List.Forall₂ R) (cs.mapM f) (ds.mapM g) := by
  induction h with
  | nil => exact .ok .nil
  | cons hcd _ ih =>
    rw [List.mapM_cons, List.mapM_cons]
    refine bind hcd fun a b hab => bind ih fun as bs habs => ?_
    exact .ok (.cons hab habs)

/-- One item among others that stay may be replaced by one that agrees. -/
theorem mapM_replace {R : α → α → Prop} {f : γ → Except ε α} (hself : ∀ c, Agree E R (f c) (f c))
    {c d : γ} (hcd : Agree E R (f c) (f d)) (before after : List γ) :
    Agree E (List.Forall₂ R) ((before ++ c :: after).mapM f) ((before ++ d :: after).mapM f) := by
  refine mapM (List.rel_append ?_ (.cons hcd ?_))
  · exact List.forall₂_same.mpr fun c _ => hself c
  · exact List.forall₂_same.mpr fun c _ => hself c

end Agree

end Sift
