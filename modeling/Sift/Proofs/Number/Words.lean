import Mathlib.Algebra.Order.Ring.Cast
import Sift.Number.Basic

/-!
# Integers in words

An integer of a text is held in a word of 64 bits, signed or unsigned. Two integers are compared as
words of one sort where one sort holds both. Where neither does, one is negative and the other one too
large for a signed word, so the sort alone tells the order. `Number.compareWords` takes these cases
one by one, and a comparison with a binary64 number last. On numbers that fit words it gives the order
of numbers, and always gives one (`Number.compareWords_eq`). Text writes no other numbers
(`Number.fitsWord_of_ofLiteral?`).
-/

namespace Sift.Number

def signed? : Number → Option Int
  | .int n => if -2 ^ 63 ≤ n ∧ n < 2 ^ 63 then some n else none
  | .float _ => none

def unsigned? : Number → Option Nat
  | .int n => if 0 ≤ n ∧ n < 2 ^ 64 then some n.toNat else none
  | .float _ => none

def isFloat : Number → Bool
  | .int _ => false
  | .float _ => true

/-- The order of two numbers, found by the words that hold them. -/
def compareWords (m n : Number) : Option Ordering :=
  match m.signed?, n.signed? with
  | some a, some b => some (Ord.compare a b)
  | _, _ =>
    match m.unsigned?, n.unsigned? with
    | some a, some b => some (Ord.compare a b)
    | _, _ =>
      if !m.isFloat && !n.isFloat then some (if m.signed?.isSome then .lt else .gt)
      else some (Ord.compare m.toDouble.value n.toDouble.value)

/-- A word of one of the two sorts holds the number, if it is an integer. -/
def FitsWord : Number → Prop
  | .int n => -2 ^ 63 ≤ n ∧ n < 2 ^ 64
  | .float _ => True

instance : (n : Number) → Decidable n.FitsWord
  | .int n => inferInstanceAs (Decidable (-2 ^ 63 ≤ n ∧ n < 2 ^ 64))
  | .float _ => inferInstanceAs (Decidable True)

/-! ## Comparing words -/

section
variable {a b : Int}

theorem signed?_of_lt (hfits : (int a).FitsWord) (h : a < 2 ^ 63) : (int a).signed? = some a :=
  if_pos ⟨hfits.1, h⟩

theorem signed?_of_le (h : 2 ^ 63 ≤ a) : (int a).signed? = none :=
  if_neg fun hword => absurd hword.2 (not_lt.mpr h)

theorem unsigned?_of_le (hfits : (int a).FitsWord) (h : 0 ≤ a) :
    (int a).unsigned? = some a.toNat :=
  if_pos ⟨h, hfits.2⟩

theorem unsigned?_of_neg (h : a < 0) : (int a).unsigned? = none :=
  if_neg fun hword => absurd hword.1 (not_le.mpr h)

theorem compare_toNat (ha : 0 ≤ a) (hb : 0 ≤ b) : Ord.compare a.toNat b.toNat = Ord.compare a b := by
  rw [← cmp_eq_compare, ← cmp_eq_compare, ← Nat.strictMono_cast.cmp_map_eq (β := Int),
    Int.toNat_of_nonneg ha, Int.toNat_of_nonneg hb]

/-- Integers that no signed word holds both of are unsigned, or of different sorts. -/
theorem compareWords_int (ha : (int a).FitsWord) (hb : (int b).FitsWord) :
    (int a).compareWords (int b) = some (Ord.compare a b) := by
  unfold compareWords
  by_cases hasmall : a < 2 ^ 63
  · rw [signed?_of_lt ha hasmall]
    by_cases hbsmall : b < 2 ^ 63
    · rw [signed?_of_lt hb hbsmall]
    · have hblarge := not_lt.mp hbsmall
      have hbpos : 0 ≤ b := le_trans (by decide) hblarge
      rw [signed?_of_le hblarge, unsigned?_of_le hb hbpos]
      by_cases hapos : 0 ≤ a
      · rw [unsigned?_of_le ha hapos]
        exact congrArg some (compare_toNat hapos hbpos)
      · have hlt : a < b := lt_of_lt_of_le (not_le.mp hapos) hbpos
        rw [unsigned?_of_neg (not_le.mp hapos)]
        exact congrArg some (compare_lt_iff_lt.mpr hlt).symm
  · have halarge := not_lt.mp hasmall
    have hapos : 0 ≤ a := le_trans (by decide) halarge
    rw [signed?_of_le halarge, unsigned?_of_le ha hapos]
    by_cases hbpos : 0 ≤ b
    · rw [unsigned?_of_le hb hbpos]
      exact congrArg some (compare_toNat hapos hbpos)
    · have hlt : b < a := lt_of_lt_of_le (not_le.mp hbpos) hapos
      rw [unsigned?_of_neg (not_le.mp hbpos)]
      exact congrArg some (compare_gt_iff_gt.mpr hlt).symm

end

/-- The words that hold two numbers tell their order. -/
theorem compareWords_eq {m n : Number} (hm : m.FitsWord) (hn : n.FitsWord) :
    m.compareWords n = some (m.compare n) := by
  cases m with
  | float x => cases n <;> rfl
  | int a =>
    cases n with
    | int b => exact compareWords_int hm hn
    | float y =>
      unfold compareWords
      cases (int a).signed? <;> cases (int a).unsigned? <;> rfl

/-! ## Numbers of literals -/

theorem gather_lt {significand : Nat} (h : significand < 2 ^ 64) (digits : List Nat) :
    (gather significand digits).1 < 2 ^ 64 := by
  induction digits generalizing significand with
  | nil => exact h
  | cons d rest ih =>
    rw [gather]
    split
    next hfits => exact ih hfits
    next => exact h

theorem fitsWord_of_ofLiteral? {negative : Bool} {whole fraction : List Nat}
    {exponent : Option Int} {n : Number}
    (h : ofLiteral? negative whole fraction exponent = some n) : n.FitsWord := by
  have hlt : (gather 0 whole).1 < 2 ^ 64 := gather_lt (by decide) whole
  unfold ofLiteral? at h
  simp only at h
  split at h
  · cases h
    exact ⟨by omega, by omega⟩
  · split at h
    next hneg =>
      cases h
      simp only [Bool.and_eq_true, decide_eq_true_eq, Nat.pow_eq] at hneg
      exact ⟨by omega, by omega⟩
    next =>
      obtain ⟨x, -, rfl⟩ := Option.map_eq_some_iff.mp h
      trivial

end Sift.Number
