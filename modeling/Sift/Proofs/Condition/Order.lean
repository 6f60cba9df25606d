import Sift.Proofs.Condition.Equality
import Sift.Proofs.Json.Order
import Sift.Proofs.Number.Words
import Sift.Proofs.Pattern.Plain

/-!
# The order operators

`$lt` and `$gt` with a literal ask for the order of the value and the literal, `$gte` and `$lte` are
the negations of the two. On values of one ordered kind they agree with each other and with `$eq`, as
the signs of a linear order do. On all other values neither `$lt` nor `$gt` holds, so that both
negations do (`isMatch_orders`).
-/

namespace Sift

/-- The result of a condition of one operator on a value. -/
def answer [Pattern.Engine] (key : String) (v w : Json) : Except Error Bool :=
  (isMatch v (.object [⟨key, w⟩])).result

/-- A value of an ordered kind is no reference. -/
theorem get?_of_isOrdered {v : Json} (h : v.kind.IsOrdered) (key : String) : v.get? key = none := by
  cases v with
  | object members => rcases h with h | h | h | h <;> cases h
  | _ => rfl

section
variable [Pattern.Engine] {u v w : Json}

theorem answer_scalar {key : String} {test : ScalarTest} {negated : Bool}
    (hkey : Keyword.ofKey? key = some ⟨.scalar test, negated⟩)
    (hw : w.get? Reference.key = none) {holds : Bool}
    (heval : test.eval (.literal w) (.root (.value v)) = .ok holds) :
    answer key v w = .ok (holds != negated) := by
  rw [answer, isMatch_eq_resultAt, Condition.resultAt_scalar hkey hw heval]

section
variable (v) (hw : w.get? Reference.key = none)
include hw

theorem answer_lt : answer "$lt" v w = .ok (v.ordered Ordering.isLT w) := by
  rw [answer_scalar rfl hw rfl, Bool.bne_false]
  rfl

theorem answer_gt : answer "$gt" v w = .ok (v.ordered Ordering.isGT w) := by
  rw [answer_scalar rfl hw rfl, Bool.bne_false]
  rfl

theorem answer_gte : answer "$gte" v w = .ok (!v.ordered Ordering.isLT w) := by
  rw [answer_scalar rfl hw rfl, Bool.bne_true]
  rfl

theorem answer_lte : answer "$lte" v w = .ok (!v.ordered Ordering.isGT w) := by
  rw [answer_scalar rfl hw rfl, Bool.bne_true]
  rfl

end

/-- Between values of one ordered kind exactly one of `$lt`, `$eq` and `$gt` holds, `$gte` and `$lte`
join two of them, and `$lt` and `$gt` are converse to each other; between other values `$lt` and
`$gt` fail and their negations hold. Both are transitive. Any two numbers stand in an order, which the
words that hold them tell. It is the reverse of that of the second to the first, and the order of their
quantities if both are integers or of one kind. -/
theorem isMatch_orders (hw : w.get? Reference.key = none) :
    (∃ lt eq gt gte lte : Bool, answer "$lt" v w = .ok lt ∧ answer "$eq" v w = .ok eq ∧
      answer "$gt" v w = .ok gt ∧ answer "$gte" v w = .ok gte ∧ answer "$lte" v w = .ok lte ∧
      (v.kind = w.kind ∧ v.kind.IsOrdered → [lt, eq, gt].count true = 1 ∧
        (gte = true ↔ gt = true ∨ eq = true) ∧ (lte = true ↔ lt = true ∨ eq = true) ∧
        answer "$gt" w v = .ok lt ∧ answer "$lt" w v = .ok gt) ∧
      (¬(v.kind = w.kind ∧ v.kind.IsOrdered) →
        lt = false ∧ gt = false ∧ gte = true ∧ lte = true)) ∧
    (∀ u : Json, u.get? Reference.key = none →
      (answer "$lt" v w = .ok true → answer "$lt" w u = .ok true → answer "$lt" v u = .ok true) ∧
      (answer "$gt" v w = .ok true → answer "$gt" w u = .ok true →
        answer "$gt" v u = .ok true)) ∧
    ∀ m n : Number, (m.FitsWord → n.FitsWord → m.compareWords n = some (m.compare n)) ∧
      m.compare n = (n.compare m).swap ∧
      ((∃ i j, m = .int i ∧ n = .int j) ∨ m.kind = n.kind →
        m.compare n = Ord.compare m.toRat n.toRat) := by
  refine ⟨⟨_, _, _, _, _, answer_lt v hw, isMatch_equal v hw, answer_gt v hw, answer_gte v hw,
    answer_lte v hw, ?_, ?_⟩, fun u hu => ⟨?_, ?_⟩,
    fun m n => ⟨Number.compareWords_eq, m.compare_swap n, ?_⟩⟩
  · rintro ⟨hkind, hordered⟩
    obtain ⟨hone, hgte, hlte⟩ := Json.signs_of_kind hkind hordered
    have hv : v.get? Reference.key = none := get?_of_isOrdered hordered _
    refine ⟨hone, hgte, hlte, ?_, ?_⟩
    · rw [answer_gt w hv, Json.ordered_isGT_eq]
    · rw [answer_lt w hv, Json.ordered_isGT_eq]
  · intro hkind
    have hnot : ∀ test, v.ordered test w = false := fun test =>
      eq_false_of_ne_true (mt Json.kind_of_ordered hkind)
    rw [hnot, hnot]
    exact ⟨rfl, rfl, rfl, rfl⟩
  · rw [answer_lt v hw, answer_lt w hu, answer_lt v hu, Except.ok.injEq, Except.ok.injEq,
      Except.ok.injEq]
    exact Json.ordered_isLT_trans
  · rw [answer_gt v hw, answer_gt w hu, answer_gt v hu, Except.ok.injEq, Except.ok.injEq,
      Except.ok.injEq]
    exact Json.ordered_isGT_trans
  · rintro (⟨i, j, rfl, rfl⟩ | hkind)
    · exact Number.compare_int i j
    · exact Number.compare_eq_of_kind_eq hkind

end

section
attribute [local instance] Pattern.Engine.plain

/-- Two is below three, however the two are written. The integer after the largest one of the kind of
numbers is of another kind than the binary64 number it converts to. The integer after the largest one of
a signed word is above minus one, which no unsigned word holds. -/
theorem isMatch_orders_kinds :
    (Json.number (.float (.ofInt 3))).get? Reference.key = none ∧
    (Json.number (.int 2)).kind = (Json.number (.float (.ofInt 3))).kind ∧
    (Json.number (.int 2)).kind.IsOrdered ∧
    answer "$gt" (.number (.float (.ofInt 3))) (.number (.int 2)) = .ok true ∧
    (Json.number (.int 9007199254740992)).kind ≠
      (Json.number (.float (.ofInt 9007199254740992))).kind ∧
    answer "$gte" (.number (.int 9007199254740992))
      (.number (.float (.ofInt 9007199254740992))) = .ok true ∧
    answer "$lte" (.number (.int 9007199254740992))
      (.number (.float (.ofInt 9007199254740992))) = .ok true ∧
    (Number.int 9223372036854775808).FitsWord ∧ (Number.int (-1)).FitsWord ∧
    (Number.int 9223372036854775808).compareWords (.int (-1)) = some .gt := by
  have hkind : (Json.number (.int 2)).kind = (Json.number (.float (.ofInt 3))).kind := by decide
  have hordered : (Json.number (.int 2)).kind.IsOrdered := .inr (.inr (.inl rfl))
  have hother : (Json.number (.int 9007199254740992)).kind ≠
      (Json.number (.float (.ofInt 9007199254740992))).kind := by decide
  have hlt : answer "$lt" (.number (.int 2)) (.number (.float (.ofInt 3))) = .ok true := by
    have htest : (Json.number (.int 2)).ordered Ordering.isLT
        (.number (.float (.ofInt 3))) = true := by
      decide +kernel
    exact (answer_lt _ rfl).trans (congrArg Except.ok htest)
  have hlarge : (Number.int 9223372036854775808).FitsWord := by decide
  have hnegative : (Number.int (-1)).FitsWord := by decide
  obtain ⟨⟨lt, _, _, _, _, hlt', _, _, _, _, hsigns, _⟩, _, hnumbers⟩ :=
    isMatch_orders (v := .number (.int 2)) (w := .number (.float (.ofInt 3))) rfl
  obtain ⟨⟨_, _, _, _, _, _, _, _, hgte, hlte, _, hunordered⟩, _, _⟩ :=
    isMatch_orders (v := .number (.int 9007199254740992))
      (w := .number (.float (.ofInt 9007199254740992))) rfl
  obtain ⟨-, -, -, hgt, -⟩ := hsigns ⟨hkind, hordered⟩
  obtain ⟨-, -, rfl, rfl⟩ := hunordered fun h => hother h.1
  rw [hlt] at hlt'
  obtain rfl := Except.ok.inj hlt'
  have hwords := (hnumbers (.int 9223372036854775808) (.int (-1))).1 hlarge hnegative
  exact ⟨rfl, hkind, hordered, hgt, hother, hgte, hlte, hlarge, hnegative, hwords⟩

end

end Sift
