import Mathlib.Data.String.Basic
import Mathlib.Order.Defs.LinearOrder
import Sift.Proofs.Number.Exact

/-!
# The order of values

Only strings, truth values, numbers and big integers are ordered, each among themselves
(`Json.kind_of_compare?`). Each of these kinds is laid out along a line (`Kind.IsOrdered.exists_place`):
the values of the kind have places in a linear order, `Json.compare?` compares their places, and
equality says that the places are one. So what holds of a linear order holds of the values of a kind,
however their numbers are written.
-/

namespace Sift

def Kind.IsOrdered (k : Kind) : Prop :=
  k = .string ∨ k = .boolean ∨ k = .number ∨ k = .bigInt

theorem Number.kind_eq (n : Number) : n.kind = .number ∨ n.kind = .bigInt := by
  unfold kind
  split
  · exact .inr rfl
  · exact .inl rfl

namespace Json

variable {v w : Json}

/-! ## What is ordered -/

theorem exists_string (h : v.kind = .string) : ∃ s, v = .string s := by
  cases v with
  | string s => exact ⟨s, rfl⟩
  | number n => exact absurd (n.kind_eq.imp h.symm.trans h.symm.trans) (by simp)
  | _ => cases h

theorem exists_bool (h : v.kind = .boolean) : ∃ b, v = .bool b := by
  cases v with
  | bool b => exact ⟨b, rfl⟩
  | number n => exact absurd (n.kind_eq.imp h.symm.trans h.symm.trans) (by simp)
  | _ => cases h

theorem exists_number (h : v.kind = .number ∨ v.kind = .bigInt) : ∃ n, v = .number n := by
  cases v with
  | number n => exact ⟨n, rfl⟩
  | _ => rcases h with h | h <;> cases h

theorem kind_of_compare? {order : Ordering} (h : v.compare? w = some order) :
    v.kind = w.kind ∧ v.kind.IsOrdered := by
  unfold compare? at h
  split at h
  next => exact ⟨rfl, .inl rfl⟩
  next => exact ⟨rfl, .inr (.inl rfl)⟩
  next m n =>
    split at h
    next hkind => exact ⟨hkind, .inr (.inr m.kind_eq)⟩
    next => cases h
  next => cases h

/-! ## Places -/

def quantity : Json → ℚ
  | .number n => n.toRat
  | _ => 0

theorem compare?_number {m n : Number} (h : m.kind = n.kind) :
    (Json.number m).compare? (.number n) = some (Ord.compare m.toRat n.toRat) := by
  rw [compare?, if_pos h, Number.compare_eq_of_kind_eq h]

theorem equal_number {m n : Number} (h : m.kind = n.kind) :
    (Json.number m).equal (.number n) = true ↔ m.toRat = n.toRat := by
  rw [equal, Number.equal_iff]
  exact and_iff_right h

end Json

/-- The values of an ordered kind have places on a line. -/
theorem Kind.IsOrdered.exists_place {k : Kind} (h : k.IsOrdered) :
    ∃ (Line : Type) (_ : LinearOrder Line) (place : Json → Line), ∀ v w : Json,
      v.kind = k → w.kind = k → v.compare? w = some (Ord.compare (place v) (place w)) ∧
        (v.equal w = true ↔ place v = place w) := by
  rcases h with rfl | rfl | hnumber
  · refine ⟨String, inferInstance, fun v => v.string?.getD "", fun v w hv hw => ?_⟩
    obtain ⟨s, rfl⟩ := Json.exists_string hv
    obtain ⟨t, rfl⟩ := Json.exists_string hw
    exact ⟨rfl, beq_iff_eq⟩
  · refine ⟨Bool, inferInstance, fun v => v.bool?.getD false, fun v w hv hw => ?_⟩
    obtain ⟨a, rfl⟩ := Json.exists_bool hv
    obtain ⟨b, rfl⟩ := Json.exists_bool hw
    exact ⟨rfl, beq_iff_eq⟩
  · refine ⟨ℚ, inferInstance, Json.quantity, fun v w hv hw => ?_⟩
    obtain ⟨m, rfl⟩ := Json.exists_number (hnumber.imp hv.trans hv.trans)
    obtain ⟨n, rfl⟩ := Json.exists_number (hnumber.imp hw.trans hw.trans)
    have hkind : m.kind = n.kind := hv.trans hw.symm
    exact ⟨Json.compare?_number hkind, Json.equal_number hkind⟩

/-! ## Signs of a linear order -/

section
variable {Line : Type} [LinearOrder Line] {a b : Line}

/-- Of before, equal and after exactly one holds, and the negations are what the other two say. -/
theorem signs_of_trichotomy {lt eq gt : Bool} (hlt : lt = true ↔ a < b) (heq : eq = true ↔ a = b)
    (hgt : gt = true ↔ b < a) : [lt, eq, gt].count true = 1 ∧
      ((!lt) = true ↔ gt = true ∨ eq = true) ∧ ((!gt) = true ↔ lt = true ∨ eq = true) := by
  obtain hab | hab | hab := lt_trichotomy a b
  · obtain rfl := hlt.mpr hab
    obtain rfl : eq = false := eq_false_of_ne_true (mt heq.mp hab.ne)
    obtain rfl : gt = false := eq_false_of_ne_true (mt hgt.mp hab.not_gt)
    decide
  · obtain rfl := heq.mpr hab
    obtain rfl : lt = false := eq_false_of_ne_true (mt hlt.mp hab.not_lt)
    obtain rfl : gt = false := eq_false_of_ne_true (mt hgt.mp hab.symm.not_lt)
    decide
  · obtain rfl := hgt.mpr hab
    obtain rfl : lt = false := eq_false_of_ne_true (mt hlt.mp hab.not_gt)
    obtain rfl : eq = false := eq_false_of_ne_true (mt heq.mp hab.ne')
    decide

end

namespace Json

variable {u v w : Json}

section
variable {Line : Type} [LinearOrder Line] {a b : Line}

theorem ordered_isLT_iff (h : v.compare? w = some (Ord.compare a b)) :
    v.ordered Ordering.isLT w = true ↔ a < b := by
  unfold ordered
  rw [h, Option.any_some, Ordering.isLT_iff_eq_lt, compare_lt_iff_lt]

theorem ordered_isGT_iff (h : v.compare? w = some (Ord.compare a b)) :
    v.ordered Ordering.isGT w = true ↔ b < a := by
  unfold ordered
  rw [h, Option.any_some, Ordering.isGT_iff_eq_gt, compare_gt_iff_gt]

end

theorem kind_of_ordered {test : Ordering → Bool} (h : v.ordered test w = true) :
    v.kind = w.kind ∧ v.kind.IsOrdered := by
  unfold ordered at h
  cases hcompare : v.compare? w with
  | none =>
    rw [hcompare] at h
    cases h
  | some order => exact kind_of_compare? hcompare

/-- On values of one ordered kind, before, equal and after are the signs of a linear order. -/
theorem signs_of_kind (hkind : v.kind = w.kind) (hordered : v.kind.IsOrdered) :
    [v.ordered Ordering.isLT w, v.equal w, v.ordered Ordering.isGT w].count true = 1 ∧
      ((!v.ordered Ordering.isLT w) = true ↔
        v.ordered Ordering.isGT w = true ∨ v.equal w = true) ∧
      ((!v.ordered Ordering.isGT w) = true ↔
        v.ordered Ordering.isLT w = true ∨ v.equal w = true) := by
  obtain ⟨Line, _, place, hplace⟩ := hordered.exists_place
  obtain ⟨hcompare, hequal⟩ := hplace v w rfl hkind.symm
  exact signs_of_trichotomy (ordered_isLT_iff hcompare) hequal (ordered_isGT_iff hcompare)

theorem ordered_isGT_eq (v w : Json) : v.ordered Ordering.isGT w = w.ordered Ordering.isLT v := by
  rw [Bool.eq_iff_iff]
  constructor
  · intro h
    obtain ⟨hkind, hordered⟩ := kind_of_ordered h
    obtain ⟨Line, _, place, hplace⟩ := hordered.exists_place
    have hlt := (ordered_isGT_iff (hplace v w rfl hkind.symm).1).mp h
    exact (ordered_isLT_iff (hplace w v hkind.symm rfl).1).mpr hlt
  · intro h
    obtain ⟨hkind, hordered⟩ := kind_of_ordered h
    obtain ⟨Line, _, place, hplace⟩ := hordered.exists_place
    have hlt := (ordered_isLT_iff (hplace w v rfl hkind.symm).1).mp h
    exact (ordered_isGT_iff (hplace v w hkind.symm rfl).1).mpr hlt

theorem ordered_isLT_trans (hvw : v.ordered Ordering.isLT w = true)
    (hwu : w.ordered Ordering.isLT u = true) : v.ordered Ordering.isLT u = true := by
  obtain ⟨hkind, hordered⟩ := kind_of_ordered hvw
  have hkind' : u.kind = v.kind := (hkind.trans (kind_of_ordered hwu).1).symm
  obtain ⟨Line, _, place, hplace⟩ := hordered.exists_place
  have hlt := (ordered_isLT_iff (hplace v w rfl hkind.symm).1).mp hvw
  have hlt' := (ordered_isLT_iff (hplace w u hkind.symm hkind').1).mp hwu
  exact (ordered_isLT_iff (hplace v u rfl hkind').1).mpr (hlt.trans hlt')

theorem ordered_isGT_trans (hvw : v.ordered Ordering.isGT w = true)
    (hwu : w.ordered Ordering.isGT u = true) : v.ordered Ordering.isGT u = true := by
  rw [ordered_isGT_eq] at hvw hwu ⊢
  exact ordered_isLT_trans hwu hvw

end Json

end Sift
