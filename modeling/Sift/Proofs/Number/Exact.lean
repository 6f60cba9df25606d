import Mathlib.Algebra.Order.Field.Rat
import Mathlib.Algebra.Order.Ring.Cast
import Sift.Json.Order

/-!
# Exact values of numbers

`Number.toRat` is what a number denotes. Numbers of one kind are compared by what they denote
(`Number.compare_eq_of_kind_eq`): integers exactly, and a binary64 number only with integers of at
most 53 bits, which convert to binary64 without rounding (`Double.value_ofInt`).
-/

namespace Sift

namespace Double

/-! ## Conversions without rounding -/

theorem spacing_eq (units : Nat) : spacing units = 2 ^ (units.log2 - 52) := rfl

theorem spacing_pos (units : Nat) : 0 < spacing units := by
  rw [spacing_eq]
  exact Nat.pow_pos (by decide)

theorem unitsPerOne_eq : ∃ k, unitsPerOne = Nat.pow 2 k :=
  ⟨1074, by unfold unitsPerOne; exact Eq.refl _⟩

theorem unitsPerOne_pos : 0 < unitsPerOne := by
  obtain ⟨k, hk⟩ := unitsPerOne_eq
  rw [hk]
  exact Nat.pow_pos (by decide)

theorem roundDiv_of_dvd {num den : Nat} (hden : 0 < den) (h : den ∣ num) :
    roundDiv num den = num / den := by
  have hmod : 2 * (num % den) < den := by
    rw [Nat.mod_eq_zero_of_dvd h]
    exact hden
  simp only [roundDiv]
  rw [if_pos hmod]

/-- A count with at most 53 significant bits stays as it is. -/
theorem roundUnits_of_dvd {units : Nat} (h : spacing units ∣ units) :
    roundUnits units 1 = units := by
  simp only [roundUnits]
  rw [Nat.div_one, Nat.one_mul, roundDiv_of_dvd (spacing_pos units) h, Nat.div_mul_cancel h]

theorem spacing_dvd_of_lt {n : Nat} (h : n < 2 ^ 53) :
    spacing (n * unitsPerOne) ∣ n * unitsPerOne := by
  obtain ⟨k, hunits⟩ := unitsPerOne_eq
  rw [hunits, Nat.pow_eq, spacing_eq]
  have hlog : (n * 2 ^ k).log2 - 52 ≤ k := by
    obtain rfl | hn := Nat.eq_zero_or_pos n
    · simp
    · have hpos : n * 2 ^ k ≠ 0 := (Nat.mul_pos hn (Nat.pow_pos (by decide))).ne'
      have hlt : n * 2 ^ k < 2 ^ (53 + k) := by
        rw [Nat.pow_add]
        exact Nat.mul_lt_mul_of_pos_right h (Nat.pow_pos (by decide))
      have hlog := (Nat.log2_lt hpos).mpr hlt
      omega
  exact Nat.dvd_mul_left_of_dvd (Nat.pow_dvd_pow 2 hlog) n

/-- An integer of at most 53 bits is a binary64 number. -/
theorem value_ofInt {n : Int} (h : n.natAbs < 2 ^ 53) : (ofInt n).value = n * unitsPerOne := by
  unfold ofInt value
  rw [roundUnits_of_dvd (spacing_dvd_of_lt h)]
  simp only [decide_eq_true_eq, Nat.cast_mul]
  split
  next hneg => rw [Int.ofNat_natAbs_of_nonpos (le_of_lt hneg), Int.neg_mul, Int.neg_neg]
  next hneg => rw [Int.natAbs_of_nonneg (not_lt.mp hneg)]

end Double

namespace Number

def toRat : Number → ℚ
  | .int n => n
  | .float x => x.value / Double.unitsPerOne

/-! ## Comparing what is denoted -/

theorem units_cast_pos : (0 : ℚ) < Double.unitsPerOne :=
  Nat.cast_pos.mpr Double.unitsPerOne_pos

theorem natAbs_lt_of_kind {n : Int} (h : (int n).kind = .number) : n.natAbs < 2 ^ 53 := by
  by_contra hlarge
  have hbig : (int n).isBig = true := by
    simp only [isBig, maxSafe, Nat.pow_eq]
    exact decide_eq_true (by omega)
  rw [kind, if_pos hbig] at h
  cases h

/-- A number that is no big integer keeps its quantity when it is turned into binary64. -/
theorem toRat_mul_units {n : Number} (h : n.kind = .number) :
    n.toRat * Double.unitsPerOne = n.toDouble.value := by
  cases n with
  | int n =>
    rw [toRat, toDouble, Double.value_ofInt (natAbs_lt_of_kind h)]
    push_cast
    rfl
  | float x => exact div_mul_cancel₀ _ units_cast_pos.ne'

theorem compare_intCast (a b : Int) : Ord.compare (a : ℚ) (b : ℚ) = Ord.compare a b := by
  rw [← cmp_eq_compare, ← cmp_eq_compare]
  exact Int.cast_strictMono.cmp_map_eq a b

theorem compare_toDouble {m n : Number} (hm : m.kind = .number) (hn : n.kind = .number) :
    Ord.compare m.toDouble.value n.toDouble.value = Ord.compare m.toRat n.toRat := by
  rw [← compare_intCast, ← toRat_mul_units hm, ← toRat_mul_units hn, ← cmp_eq_compare,
    ← cmp_eq_compare]
  exact cmp_mul_pos_right units_cast_pos m.toRat n.toRat

/-- Numbers of one kind stand in the order of the quantities that they denote. -/
theorem compare_eq_of_kind_eq {m n : Number} (h : m.kind = n.kind) :
    m.compare n = Ord.compare m.toRat n.toRat := by
  cases m with
  | int a =>
    cases n with
    | int b => exact (compare_intCast a b).symm
    | float y => exact compare_toDouble h rfl
  | float x => exact compare_toDouble rfl h.symm

theorem compare_int (a b : Int) : (int a).compare (int b) = Ord.compare (int a).toRat (int b).toRat :=
  (compare_intCast a b).symm

theorem compare_swap (m n : Number) : m.compare n = (n.compare m).swap := by
  cases m <;> cases n <;> exact (Int.compare_swap _ _).symm

/-- Numbers are equal when they are of one kind and denote one quantity. -/
theorem equal_iff {m n : Number} : m.equal n = true ↔ m.kind = n.kind ∧ m.toRat = n.toRat := by
  unfold equal
  rw [Bool.and_eq_true, decide_eq_true_eq]
  refine and_congr_right fun hkind => ?_
  rw [compare_eq_of_kind_eq hkind, beq_iff_eq, compare_eq_iff_eq]

end Number

end Sift
