import Sift.Proofs.Condition.Literals
import Sift.Proofs.Condition.Quantifier
import Sift.Proofs.Pattern.Plain

/-!
# Containment by quantifiers

A containment test compares bare values with a list of literals. A quantifier steps to the elements and
tests a condition where it arrives, which is the value itself, or an entry that the condition looks into
with `$value`. Both see the same values in the same order (`Condition.AsksValues`). So `$containsSome`
is `$someMatch` with `$in`, and its siblings are such conditions too (`Condition.ContainmentLaws`).

The two sides compare in opposite directions: the item with the element, and the element with the item.
-/

namespace Sift

/-! ## Conditions on elements -/

namespace Condition

variable [Pattern.Engine]

/-- What `element` makes of a condition asks of each element what the condition asks of its value. -/
structure AsksValues (element : Json → Json) (c : Cursor) (target : Target) : Prop where
  succeeds : ∀ source, Succeeds (ofJson source) → Succeeds (ofJson (element source))
  asks : List.Forall₂
    (fun step v => ∃ d place, c.stepTo step = .ok d ∧ place.node = .value v ∧
      ∀ source, resultAt d (element source) = resultAt place source)
    target.steps target.values

variable {c : Cursor} {target : Target}

theorem AsksValues.of_values (htarget : c.node.target = .ok (some target))
    (hnodes : target.nodes = target.values.map .value) : AsksValues id c target where
  succeeds _ h := h
  asks := by
    have hsteps := Cursor.forall₂_stepTo htarget
    rw [hnodes, List.forall₂_map_right_iff] at hsteps
    refine hsteps.imp fun step v h => ?_
    obtain ⟨segment, hstep⟩ := h
    exact ⟨_, .child c segment (.value v), hstep, rfl, fun _ => rfl⟩

/-- The elements of an object are entries, whose values are looked at with `$value`. -/
theorem AsksValues.of_entries {members : List Member}
    (htarget : c.node.target = .ok (some (.object members))) :
    AsksValues (.single "$value") c (.object members) where
  succeeds source h := by
    have hkey : Keyword.ofKey? "$value" = some ⟨.within .value, false⟩ := rfl
    rw [ofJson_operator hkey, Operator.ofMember_condition hkey rfl]
    exact succeeds_map_iff.mpr (succeeds_map_iff.mpr (succeeds_map_iff.mpr h))
  asks := by
    have hsteps := Cursor.forall₂_stepTo htarget
    rw [Target.nodes, List.forall₂_map_right_iff] at hsteps
    rw [Target.values, List.forall₂_map_right_iff]
    refine hsteps.imp fun step m h => ?_
    obtain ⟨segment, hstep⟩ := h
    exact ⟨_, _, hstep, rfl, fun source => resultAt_value rfl source⟩

section
variable {element : Json → Json} (h : AsksValues element c target)
  (htarget : c.node.target = .ok (some target)) {key : String} {negated : Bool} {source : Json}
  {holds : Json → Bool}
  (hsource : ∀ place v, place.node = .value v → resultAt place source = .ok (holds v))
include h htarget hsource

/-- If a condition does not fail on values, a quantifier checks its answers to the values of the
elements. -/
theorem AsksValues.resultAt_check {quantifier : Quantifier}
    (hkey : Keyword.ofKey? key = some ⟨.quantified quantifier, negated⟩) :
    resultAt c (.single key (element source)) =
      (quantifier.check (fun v _ => .ok (holds v)) target.values).map (· != negated) := by
  have hread : Succeeds (ofJson source) := succeeds_of_resultAt (hsource (.root (.value .null)) _ rfl)
  obtain ⟨condition, hcondition⟩ := h.succeeds source hread
  have hsame : List.Forall₂ (fun step v => ∀ _ : Nat, Agree Eq Eq
      (c.stepTo step >>= fun d => (condition.test d).result) (.ok (holds v)))
      target.steps target.values := by
    refine h.asks.imp fun step v helement _ => ?_
    obtain ⟨d, place, hstep, hnode, hasks⟩ := helement
    have hresult := hasks source
    rw [hsource place v hnode, resultAt_of_ofJson hcondition] at hresult
    rw [hstep]
    change Agree Eq Eq (condition.test d).result _
    rw [hresult]
    exact .ok rfl
  rw [resultAt_quantified hkey hcondition, Quantifier.result_over quantifier _ htarget,
    (Quantifier.check_agree hsame quantifier).eq]

theorem AsksValues.resultAt_any (hkey : Keyword.ofKey? key = some ⟨.quantified .any, negated⟩) :
    resultAt c (.single key (element source)) = .ok (target.values.any holds != negated) := by
  have hcheck : Quantifier.any.check (fun v _ => .ok (holds v)) target.values =
      .ok (target.values.any holds) := Sequence.anyMatch_eq_any fun _ _ _ => rfl
  rw [h.resultAt_check htarget hsource hkey, hcheck]
  rfl

theorem AsksValues.resultAt_all (hkey : Keyword.ofKey? key = some ⟨.quantified .all, negated⟩) :
    resultAt c (.single key (element source)) = .ok (target.values.all holds != negated) := by
  have hcheck : Quantifier.all.check (fun v _ => .ok (holds v)) target.values =
      .ok (target.values.all holds) := Sequence.allMatch_eq_all fun _ _ _ => rfl
  rw [h.resultAt_check htarget hsource hkey, hcheck]
  rfl

end

end Condition

/-! ## The laws -/

/-- What the containment keys with a list of literals ask of elements that `element` looks at. -/
structure Condition.ContainmentLaws (ask : Json → Except Error Bool) (element : Json → Json)
    (items : List Json) : Prop where
  answers : ∀ key ∈ ["$containsSome", "$containsNone", "$containsAll", "$containsSame"],
    ∃ b, ask (.single key (.array items)) = .ok b
  some_eq : ask (.single "$containsSome" (.array items)) =
    ask (.single "$someMatch" (element (.single "$in" (.array items))))
  none_eq : ask (.single "$containsNone" (.array items)) =
    ask (.single "$noneMatch" (element (.single "$in" (.array items))))
  none_eq_all : ask (.single "$containsNone" (.array items)) =
    ask (.single "$allMatch" (element (.single "$nin" (.array items))))
  all_eq : ask (.single "$containsAll" (.array items)) =
    ask (.single "$and"
      (.array (items.map fun x => .single "$someMatch" (element (.single "$eq" x)))))
  all_of_same : ask (.single "$containsSame" (.array items)) = .ok true →
    ask (.single "$containsAll" (.array items)) = .ok true

namespace Containment

section
variable {elements items : List Json} (helements : ∀ v ∈ elements, v.WellFormed)
  (hitems : ∀ x ∈ items, x.WellFormed)
include helements hitems

theorem isElement_value {v x : Json} (hv : v ∈ elements) (hx : x ∈ items) :
    isElement v (.value x) = v.equal x :=
  Json.equal_comm (hitems x hx) (helements v hv)

theorem holds_any_eq :
    any.holds elements (items.map .value) = elements.any fun v => items.any fun x => v.equal x := by
  rw [holds, Bool.eq_iff_iff]
  simp only [List.any_map, List.any_eq_true, Function.comp_apply]
  refine exists_congr fun v => and_congr_right fun hv => ?_
  refine exists_congr fun x => and_congr_right fun hx => ?_
  rw [isElement_value helements hitems hv hx]

theorem holds_all_eq :
    all.holds elements (items.map .value) = items.all fun x => elements.any fun v => v.equal x := by
  rw [holds, Bool.eq_iff_iff]
  simp only [List.all_map, List.all_eq_true, List.any_eq_true, Function.comp_apply]
  refine forall_congr' fun x => forall_congr' fun hx => ?_
  refine exists_congr fun v => and_congr_right fun hv => ?_
  rw [isElement_value helements hitems hv hx]

end

end Containment

namespace Condition

section
variable [Pattern.Engine]

theorem ContainmentLaws.of_asksValues {c : Cursor} {target : Target} {element : Json → Json}
    (h : AsksValues element c target) (htarget : c.node.target = .ok (some target))
    (hc : c.node.WellFormed) {items : List Json} (hwellFormed : ∀ x ∈ items, x.WellFormed)
    (hitems : ∀ x ∈ items, x.get? Reference.key = none) :
    ContainmentLaws (resultAt c) element items := by
  have hvalues := hc.values htarget
  have hcontainment : ∀ key test negated, Keyword.ofKey? key = some ⟨.containment test, negated⟩ →
      resultAt c (.single key (.array items)) =
        .ok (test.holds target.values (items.map .value) != negated) :=
    fun key test negated hkey => resultAt_containment hitems hkey htarget
  have hsome := hcontainment "$containsSome" .any false rfl
  have hnone := hcontainment "$containsNone" .any true rfl
  have hall := hcontainment "$containsAll" .all false rfl
  have hsame := hcontainment "$containsSame" .same false rfl
  have hin : ∀ place v, place.node = .value v →
      resultAt place (.single "$in" (.array items)) = .ok (items.any fun x => v.equal x) := by
    intro place v hnode
    rw [resultAt_isIn hitems rfl, hnode, Bool.bne_false]
    rfl
  have hnin : ∀ place v, place.node = .value v →
      resultAt place (.single "$nin" (.array items)) = .ok (!items.any fun x => v.equal x) := by
    intro place v hnode
    rw [resultAt_isIn hitems rfl, hnode, Bool.bne_true]
    rfl
  have heq : ∀ x ∈ items, ∀ place v, place.node = .value v →
      resultAt place (.single "$eq" x) = .ok (v.equal x) := by
    intro x hx place v hnode
    rw [resultAt_equal rfl (hitems x hx), hnode, Bool.bne_false]
    rfl
  constructor
  case answers =>
    intro key hkey
    simp only [List.mem_cons, List.not_mem_nil, or_false] at hkey
    rcases hkey with rfl | rfl | rfl | rfl
    · exact ⟨_, hsome⟩
    · exact ⟨_, hnone⟩
    · exact ⟨_, hall⟩
    · exact ⟨_, hsame⟩
  case some_eq =>
    rw [hsome, h.resultAt_any htarget hin rfl, Containment.holds_any_eq hvalues hwellFormed]
  case none_eq =>
    rw [hnone, h.resultAt_any htarget hin rfl, Containment.holds_any_eq hvalues hwellFormed]
  case none_eq_all =>
    rw [hnone, h.resultAt_all htarget hnin rfl, Containment.holds_any_eq hvalues hwellFormed,
      Bool.bne_true, Bool.bne_false, List.not_any_eq_all_not]
  case all_eq =>
    have hsources : ∀ x ∈ items, resultAt c (.single "$someMatch" (element (.single "$eq" x))) =
        .ok (target.values.any fun v => v.equal x) := fun x hx => by
      rw [h.resultAt_any htarget (heq x hx) rfl, Bool.bne_false]
    rw [hall, resultAt_and hsources, Containment.holds_all_eq hvalues hwellFormed, Bool.bne_false]
  case all_of_same =>
    have hnodes : ∀ item ∈ items.map Node.value, item.WellFormed := by
      intro item hitem
      obtain ⟨x, hx, rfl⟩ := List.mem_map.mp hitem
      exact hwellFormed x hx
    intro hholds
    rw [hsame, Bool.bne_false] at hholds
    have hall' := Containment.holds_all_of_same hvalues hnodes (Except.ok.inj hholds)
    rw [hall, hall']
    rfl

theorem ContainmentLaws.of_indexed {c : Cursor} {members : List Member}
    (hnode : c.node = .indexed members) (hc : c.node.WellFormed) {items : List Json}
    (hwellFormed : ∀ x ∈ items, x.WellFormed)
    (hitems : ∀ x ∈ items, x.get? Reference.key = none) :
    ContainmentLaws (resultAt c) (.single "$value") items := by
  have htarget : c.node.target = .ok (some (.object members)) := by
    rw [hnode]
    rfl
  exact .of_asksValues (.of_entries htarget) htarget hc hwellFormed hitems

/-- On an array or a string, the containment keys with a list of literals are quantifiers with `$in`,
`$nin` and `$eq`. On an object that is looked at as a sequence they are such quantifiers of the values
of its entries. In both cases `$containsAll` holds if `$containsSame` does. -/
theorem containment_by_quantifiers {c : Cursor} (hc : c.node.WellFormed) {items : List Json}
    (hwellFormed : ∀ x ∈ items, x.WellFormed)
    (hitems : ∀ x ∈ items, x.get? Reference.key = none) :
    ((∃ elements, c.node = .value (.array elements)) ∨ (∃ text, c.node = .value (.string text)) →
      ContainmentLaws (resultAt c) id items) ∧
    ((∃ members, c.node = .value (.object members)) →
      ContainmentLaws (fun source => resultAt c (.single "$indexAsArray" source))
        (.single "$value") items) ∧
    ((∃ members, c.node = .indexed members) →
      ContainmentLaws (resultAt c) (.single "$value") items) := by
  refine ⟨?_, ?_, ?_⟩
  · rintro (⟨elements, hnode⟩ | ⟨text, hnode⟩)
    · have htarget : c.node.target = .ok (some (.array elements)) := by
        rw [hnode]
        rfl
      exact .of_asksValues (.of_values htarget rfl) htarget hc hwellFormed hitems
    · have htarget : c.node.target = .ok (some (.string text)) := by
        rw [hnode]
        rfl
      have hnodes : (Target.string text).nodes = (Target.string text).values.map .value := by
        rw [Target.nodes, Target.values, List.map_map]
        rfl
      exact .of_asksValues (.of_values htarget hnodes) htarget hc hwellFormed hitems
  · rintro ⟨members, hnode⟩
    have hask : (fun source => resultAt c (.single "$indexAsArray" source)) =
        resultAt (.child c "$indexAsArray" (.indexed members)) :=
      funext fun source => resultAt_indexed hnode source
    have hview : (Cursor.child c "$indexAsArray" (.indexed members)).node.WellFormed := by
      rw [hnode] at hc
      exact hc
    rw [hask]
    exact .of_indexed rfl hview hwellFormed hitems
  · rintro ⟨members, hnode⟩
    exact .of_indexed hnode hc hwellFormed hitems

end

section
attribute [local instance] Pattern.Engine.plain

/-- A text and an object hold the same two texts in another order. -/
theorem containment_by_quantifiers_two :
    (Node.value (.string "ab")).WellFormed ∧
    (Node.value (.object [⟨"k", .string "a"⟩, ⟨"l", .string "b"⟩])).WellFormed ∧
    (∀ x ∈ [Json.string "b", .string "a"], x.WellFormed ∧ x.get? Reference.key = none) ∧
    resultAt (.root (.value (.string "ab")))
        (.single "$allMatch" (.single "$nin" (.array [.string "b", .string "a"]))) = .ok false ∧
    resultAt (.root (.value (.object [⟨"k", .string "a"⟩, ⟨"l", .string "b"⟩])))
        (.single "$indexAsArray" (.single "$and" (.array
          [.single "$someMatch" (.single "$value" (.single "$eq" (.string "b"))),
            .single "$someMatch" (.single "$value" (.single "$eq" (.string "a")))]))) =
      .ok true := by
  have htext : (Node.value (.string "ab")).WellFormed := .string "ab"
  have hobject : (Node.value (.object [⟨"k", .string "a"⟩, ⟨"l", .string "b"⟩])).WellFormed := by
    have hkeys : "k" < "l" := by decide
    refine .object (List.pairwise_pair.mpr hkeys) fun m hm => ?_
    simp only [List.mem_cons, List.not_mem_nil, or_false] at hm
    rcases hm with rfl | rfl
    · exact .string "a"
    · exact .string "b"
  have hitems : ∀ x ∈ [Json.string "b", .string "a"],
      x.WellFormed ∧ x.get? Reference.key = none := by
    intro x hx
    simp only [List.mem_cons, List.not_mem_nil, or_false] at hx
    rcases hx with rfl | rfl
    · exact ⟨.string "b", rfl⟩
    · exact ⟨.string "a", rfl⟩
  have hlaws := (containment_by_quantifiers (c := .root (.value (.string "ab"))) htext
    (fun x hx => (hitems x hx).1) fun x hx => (hitems x hx).2).1 (.inr ⟨"ab", rfl⟩)
  have hlaws' := (containment_by_quantifiers (c := .root (.value (.object
    [⟨"k", .string "a"⟩, ⟨"l", .string "b"⟩]))) hobject (fun x hx => (hitems x hx).1)
    fun x hx => (hitems x hx).2).2.1 ⟨_, rfl⟩
  refine ⟨htext, hobject, hitems, ?_, ?_⟩
  · exact hlaws.none_eq_all.symm
  · exact hlaws'.all_eq.symm.trans (hlaws'.all_of_same rfl)

end

end Condition

end Sift
