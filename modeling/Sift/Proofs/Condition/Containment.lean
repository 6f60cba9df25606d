import Sift.Condition.Tests
import Sift.Proofs.Cursor.WellFormed
import Sift.Proofs.Json.NormalForm
import Sift.Proofs.Sequence.Pairing

/-!
# Elements and items, counted with multiplicity

`$containsSame` gives each element the first item left that equals it. Such a greedy search could miss
a pairing that exists, if an element took an item that a later one needs. It does not: equality is an
equivalence, so elements and items are told apart by their normal forms only, and the search succeeds
exactly if both lists have the same normal forms up to order (`Containment.pairsOff_iff_perm`). So it
asks for a correspondence of items and elements, one to one, and their order does not matter
(`Containment.same_iff_pairOff`).
-/

namespace Sift

/-- The node stands for a value that equals the other one. An absent node stands for none. -/
def Node.Equals (node : Node) (v : Json) : Prop :=
  ∃ w, node.toJson? = some w ∧ w.equal v = true

def Node.normalForm? (node : Node) : Option NormalForm :=
  node.toJson?.map Json.normalForm

namespace Containment

theorem isElement_iff (v : Json) (item : Node) : isElement v item = true ↔ item.Equals v := by
  unfold isElement Node.equal Node.Equals
  rw [Node.toJson?]
  cases item.toJson? with
  | none => exact ⟨nofun, fun ⟨_, h, _⟩ => nomatch h⟩
  | some w => exact ⟨fun h => ⟨w, rfl, h⟩, fun ⟨_, hw, h⟩ => by cases hw; exact h⟩

theorem equals_iff_normalForm {item : Node} {v : Json} (hitem : item.WellFormed)
    (hv : v.WellFormed) : item.Equals v ↔ item.normalForm? = some v.normalForm := by
  unfold Node.Equals Node.normalForm?
  rw [Option.map_eq_some_iff]
  refine exists_congr fun w => and_congr_right fun hw => ?_
  exact Json.equal_iff (hitem.toJson? hw) hv

/-! ## The greedy search -/

section
variable {γ : Type} {look : Node → γ} {lookOf : Json → γ}

theorem map_eraseP_isElement [DecidableEq γ] {v : Json} {items : List Node}
    (h : ∀ item ∈ items, isElement v item = true ↔ look item = lookOf v) :
    (items.eraseP (isElement v)).map look = (items.map look).erase (lookOf v) := by
  induction items with
  | nil => rfl
  | cons item rest ih =>
    obtain ⟨hitem, hrest⟩ := List.forall_mem_cons.mp h
    rw [List.eraseP_cons, List.map_cons, List.erase_cons]
    by_cases heq : look item = lookOf v
    · rw [hitem.mpr heq, if_pos (beq_iff_eq.mpr heq)]
      rfl
    · have hne : isElement v item = false := eq_false_of_ne_true (mt hitem.mp heq)
      rw [hne, if_neg (mt beq_iff_eq.mp heq), cond_false, List.map_cons, ih hrest]

theorem any_isElement_iff {v : Json} {items : List Node}
    (h : ∀ item ∈ items, isElement v item = true ↔ look item = lookOf v) :
    items.any (isElement v) = true ↔ lookOf v ∈ items.map look := by
  rw [List.any_eq_true, List.mem_map]
  exact exists_congr fun item => and_congr_right fun hitem => h item hitem

/-- If items equal elements by their looks, giving each element the first item left that equals it
succeeds exactly when the looks are the same up to order. -/
theorem pairsOff_iff_perm {elements : List Json} {items : List Node}
    (h : ∀ v ∈ elements, ∀ item ∈ items, isElement v item = true ↔ look item = lookOf v) :
    elements.length = items.length ∧ pairsOff elements items = true ↔
      (elements.map lookOf).Perm (items.map look) := by
  classical
  induction elements generalizing items with
  | nil =>
    rw [List.map_nil, List.nil_perm, List.map_eq_nil_iff, List.length_nil, pairsOff]
    exact ⟨fun ⟨hlength, _⟩ => List.eq_nil_of_length_eq_zero hlength.symm,
      fun hnil => ⟨by rw [hnil, List.length_nil], rfl⟩⟩
  | cons v rest ih =>
    obtain ⟨hv, hrest⟩ := List.forall_mem_cons.mp h
    have hleft : ∀ w ∈ rest, ∀ item ∈ items.eraseP (isElement v),
        isElement w item = true ↔ look item = lookOf w := fun w hw item hitem =>
      hrest w hw item (List.mem_of_mem_eraseP hitem)
    rw [List.map_cons, List.cons_perm_iff_perm_erase, ← map_eraseP_isElement hv, ← ih hleft,
      ← any_isElement_iff hv, pairsOff, Bool.and_eq_true, List.length_cons]
    constructor
    · rintro ⟨hlength, hany, hpairs⟩
      refine ⟨hany, ?_, hpairs⟩
      rw [List.length_eraseP, if_pos hany]
      omega
    · rintro ⟨hany, hlength, hpairs⟩
      rw [List.length_eraseP, if_pos hany] at hlength
      obtain ⟨item, hitem, -⟩ := List.any_eq_true.mp hany
      have hpos := List.length_pos_of_mem hitem
      exact ⟨by omega, hany, hpairs⟩

end

section
variable {elements elements' : List Json} {items items' : List Node}

theorem holds_same_iff_perm (helements : ∀ v ∈ elements, v.WellFormed)
    (hitems : ∀ item ∈ items, item.WellFormed) :
    same.holds elements items = true ↔
      (items.map Node.normalForm?).Perm (elements.map fun v => some v.normalForm) := by
  have hlook : ∀ v ∈ elements, ∀ item ∈ items,
      isElement v item = true ↔ item.normalForm? = some v.normalForm := fun v hv item hitem =>
    (isElement_iff v item).trans (equals_iff_normalForm (hitems item hitem) (helements v hv))
  rw [holds, Bool.and_eq_true, beq_iff_eq, pairsOff_iff_perm hlook]
  exact List.perm_comm

theorem holds_same_iff_pairOff (helements : ∀ v ∈ elements, v.WellFormed)
    (hitems : ∀ item ∈ items, item.WellFormed) :
    same.holds elements items = true ↔ PairOff Node.Equals items elements := by
  have hequals : ∀ item ∈ items, ∀ v ∈ elements,
      item.Equals v ↔ item.normalForm? = some v.normalForm := fun item hitem v hv =>
    equals_iff_normalForm (hitems item hitem) (helements v hv)
  rw [pairOff_congr hequals, pairOff_iff_perm, holds_same_iff_perm helements hitems]

theorem holds_all_of_same (helements : ∀ v ∈ elements, v.WellFormed)
    (hitems : ∀ item ∈ items, item.WellFormed) (h : same.holds elements items = true) :
    all.holds elements items = true := by
  obtain ⟨pairing, hpairing⟩ := (holds_same_iff_pairOff helements hitems).mp h
  rw [holds, List.all_eq_true]
  intro item hitem
  obtain ⟨i, hi, rfl⟩ := List.mem_iff_getElem.mp hitem
  have hequals : items[i].Equals elements[pairing ⟨i, hi⟩] := hpairing ⟨i, hi⟩
  rw [List.any_eq_true]
  exact ⟨_, List.getElem_mem _, (isElement_iff _ _).mpr hequals⟩

theorem holds_same_of_perm (helements : ∀ v ∈ elements, v.WellFormed)
    (hitems : ∀ item ∈ items, item.WellFormed) (hperm : elements'.Perm elements)
    (hperm' : items'.Perm items) : same.holds elements' items' = same.holds elements items := by
  have helements' : ∀ v ∈ elements', v.WellFormed := fun v hv => helements v (hperm.subset hv)
  have hitems' : ∀ item ∈ items', item.WellFormed := fun item h => hitems item (hperm'.subset h)
  rw [Bool.eq_iff_iff, holds_same_iff_perm helements' hitems',
    holds_same_iff_perm helements hitems]
  exact ((hperm'.map _).congr_left _).trans ((hperm.map _).congr_right _)

end

/-! ## The operator -/

section
variable {c : Cursor} {operand : ListOperand} {target : Target} {items : List Node}

theorem eval_eq (test : Containment) (htarget : c.node.target = .ok (some target))
    (hitems : operand.resolve c = .ok items) :
    test.eval operand c = .ok (test.holds target.values items) := by
  unfold eval
  rw [htarget, hitems]
  rfl

/-- On a target, a list that resolves has the same elements if they correspond to its items one to
one. So neither their order nor that of the items matters. -/
theorem same_iff_pairOff (hc : c.WellFormed) (hoperand : operand.WellFormed)
    (htarget : c.node.target = .ok (some target)) (hitems : operand.resolve c = .ok items) :
    (∃ b, same.eval operand c = .ok b ∧
      (b = true ↔ PairOff Node.Equals items target.values)) ∧
    (∀ (d : Cursor) (operand' : ListOperand) (target' : Target) (items' : List Node),
      d.node.target = .ok (some target') → operand'.resolve d = .ok items' →
      target'.values.Perm target.values → items'.Perm items →
      same.eval operand' d = same.eval operand c) ∧
    ∀ operands operands', operand = .items operands → operands'.Perm operands →
      same.eval (.items operands') c = same.eval operand c := by
  have hvalues := hc.node.values htarget
  have hnodes := hoperand.resolve hc hitems
  refine ⟨⟨_, eval_eq same htarget hitems, holds_same_iff_pairOff hvalues hnodes⟩, ?_, ?_⟩
  · intro d operand' target' items' htarget' hitems' hperm hperm'
    rw [eval_eq same htarget' hitems', eval_eq same htarget hitems,
      holds_same_of_perm hvalues hnodes hperm hperm']
  · rintro operands operands' rfl hperm
    obtain ⟨items', hitems', hperm'⟩ := Except.mapM_perm hperm hitems
    have hresolve : (ListOperand.items operands').resolve c = .ok items' := hitems'
    rw [eval_eq same htarget hresolve, eval_eq same htarget hitems,
      holds_same_of_perm hvalues hnodes (.refl _) hperm']

end

/-- The number two as an integer and as a binary64 number, each item given to either element. -/
theorem same_iff_pairOff_two :
    (Cursor.root (.value (.array [.number (.int 2), .string "a",
      .number (.float (.ofInt 2))]))).WellFormed ∧
    (ListOperand.items [.literal (.number (.float (.ofInt 2))), .literal (.number (.int 2)),
      .literal (.string "a")]).WellFormed ∧
    PairOff Node.Equals [.value (.number (.float (.ofInt 2))), .value (.number (.int 2)),
      .value (.string "a")] [.number (.int 2), .string "a", .number (.float (.ofInt 2))] ∧
    same.eval (.items [.literal (.string "a"), .literal (.number (.float (.ofInt 2))),
      .literal (.number (.int 2))]) (.root (.value (.array [.number (.int 2), .string "a",
        .number (.float (.ofInt 2))]))) = .ok true := by
  have hc : (Cursor.root (.value (.array [.number (.int 2), .string "a",
      .number (.float (.ofInt 2))]))).WellFormed := by
    refine .array fun v hv => ?_
    simp only [List.mem_cons, List.not_mem_nil, or_false] at hv
    rcases hv with rfl | rfl | rfl
    · exact .number _
    · exact .string _
    · exact .number _
  have hoperand : (ListOperand.items [.literal (.number (.float (.ofInt 2))),
      .literal (.number (.int 2)), .literal (.string "a")]).WellFormed := by
    intro operand hmem
    simp only [List.mem_cons, List.not_mem_nil, or_false] at hmem
    rcases hmem with rfl | rfl | rfl
    · exact .number _
    · exact .number _
    · exact .string _
  have heval : same.eval (.items [.literal (.number (.float (.ofInt 2))),
      .literal (.number (.int 2)), .literal (.string "a")]) (.root (.value (.array
        [.number (.int 2), .string "a", .number (.float (.ofInt 2))]))) = .ok true := by
    have hholds : same.holds [.number (.int 2), .string "a", .number (.float (.ofInt 2))]
        [.value (.number (.float (.ofInt 2))), .value (.number (.int 2)),
          .value (.string "a")] = true := by
      decide +kernel
    exact congrArg Except.ok hholds
  obtain ⟨⟨b, hb, hiff⟩, -, hperm⟩ := same_iff_pairOff hc hoperand rfl rfl
  refine ⟨hc, hoperand, hiff.mp ?_, ?_⟩
  · rw [heval] at hb
    exact (Except.ok.inj hb).symm
  · rw [hperm _ _ rfl (List.perm_append_singleton _ _).symm, heval]

end Containment

end Sift
