import Sift.Condition.Target
import Sift.Proofs.Cursor.Navigation
import Sift.Proofs.Json.WellFormed
import Sift.Proofs.Recorded

/-!
# Well-formed cursors and operands

A cursor over a well-formed value sees well-formed values only, wherever it goes
(`Cursor.kept_wellFormed`). So do the operands of a condition that holds well-formed literals: what a
reference leads to is part of the value that is matched (`ListOperand.WellFormed.resolve`).
-/

namespace Sift

/-! ## Nodes -/

namespace Node

def WellFormed : Node → Prop
  | .absent => True
  | .value v => v.WellFormed
  | .entry m => m.value.WellFormed
  | .indexed members => (Json.object members).WellFormed

variable {node next : Node}

theorem wellFormed_ofOption {v : Option Json} (h : ∀ w, v = some w → w.WellFormed) :
    (ofOption v).WellFormed := by
  cases v with
  | none => trivial
  | some w => exact h w rfl

theorem WellFormed.field? (h : node.WellFormed) {name : String}
    (hnext : node.field? name = some next) : next.WellFormed := by
  unfold Node.field? at hnext
  split at hnext
  · cases hnext
    trivial
  · cases hnext
    trivial
  next members =>
    cases hnext
    exact wellFormed_ofOption fun v hv => Json.WellFormed.of_lookup h hv
  next elements =>
    cases hnext
    refine wellFormed_ofOption fun v hv => ?_
    obtain ⟨i, -, hi⟩ := Option.bind_eq_some_iff.mp hv
    exact Json.WellFormed.of_mem h (List.mem_of_getElem? hi)
  next => cases hnext

theorem WellFormed.element? (h : node.WellFormed) {i : Nat}
    (hnext : node.element? i = some next) : next.WellFormed := by
  unfold Node.element? at hnext
  split at hnext
  next elements =>
    cases hnext
    exact wellFormed_ofOption fun v hv => Json.WellFormed.of_mem h (List.mem_of_getElem? hv)
  next s =>
    cases hnext
    refine wellFormed_ofOption fun v hv => ?_
    obtain ⟨c, -, rfl⟩ := Option.map_eq_some_iff.mp hv
    exact .string _
  next => cases hnext

theorem WellFormed.toJson? (h : node.WellFormed) {v : Json} (hv : node.toJson? = some v) :
    v.WellFormed := by
  cases node with
  | absent => cases hv
  | value w =>
    cases hv
    exact h
  | entry m =>
    cases hv
    have hkeys : "key" < "value" := by decide
    refine .object (List.pairwise_pair.mpr hkeys) fun part hpart => ?_
    obtain rfl | hpart := List.mem_cons.mp hpart
    · exact .string m.key
    · obtain rfl := List.mem_singleton.mp hpart
      exact h
  | indexed members =>
    cases hv
    exact h

theorem WellFormed.values (h : node.WellFormed) {target : Target}
    (htarget : node.target = .ok (some target)) : ∀ v ∈ target.values, v.WellFormed := by
  unfold Node.target at htarget
  split at htarget
  · cases htarget
  · cases htarget
  next elements =>
    cases htarget
    exact fun v hv => Json.WellFormed.of_mem h hv
  next text =>
    cases htarget
    intro v hv
    obtain ⟨c, -, rfl⟩ := List.mem_map.mp hv
    exact .string _
  next members =>
    cases htarget
    intro v hv
    obtain ⟨m, hm, rfl⟩ := List.mem_map.mp hv
    exact Json.WellFormed.of_member h hm
  next => cases htarget

end Node

/-! ## Cursors -/

namespace Cursor

def WellFormed : Cursor → Prop
  | .root node => node.WellFormed
  | .child parent _ node => parent.WellFormed ∧ node.WellFormed

theorem WellFormed.node {c : Cursor} (h : c.WellFormed) : c.node.WellFormed := by
  cases c with
  | root node => exact h
  | child parent segment node => exact h.2

theorem kept_wellFormed : Kept WellFormed where
  atField h hnode := ⟨h, h.node.field? hnode⟩
  atElement h hnode := ⟨h, h.node.element? hnode⟩
  belowAbsent _ h _ := ⟨h, trivial⟩
  atParent h := h.1

end Cursor

/-! ## Operands -/

/-- A literal is well-formed; a reference says nothing about the value that it leads to. -/
def Operand.WellFormed : Operand → Prop
  | .literal v => v.WellFormed
  | .reference _ => True

def ListOperand.WellFormed : ListOperand → Prop
  | .items operands => ∀ operand ∈ operands, operand.WellFormed
  | .reference _ => True

variable {c : Cursor}

theorem Operand.WellFormed.resolve {operand : Operand} (h : operand.WellFormed)
    (hc : c.WellFormed) {node : Node} (hnode : operand.resolve c = .ok node) :
    node.WellFormed := by
  cases operand with
  | literal v =>
    cases hnode
    exact h
  | reference r =>
    obtain ⟨d, hd, rfl⟩ := Except.map_eq_ok.mp hnode
    exact (Cursor.kept_wellFormed.resolve hc hd).node

theorem ListOperand.WellFormed.resolve {operand : ListOperand} (h : operand.WellFormed)
    (hc : c.WellFormed) {nodes : List Node} (hnodes : operand.resolve c = .ok nodes) :
    ∀ node ∈ nodes, node.WellFormed := by
  cases operand with
  | items operands =>
    intro node hnode
    obtain ⟨operand, hoperand, hresolve⟩ := Except.exists_of_mem_mapM hnodes hnode
    exact (h operand hoperand).resolve hc hresolve
  | reference r =>
    obtain ⟨d, hd, hnodes⟩ := Except.bind_eq_ok.mp hnodes
    have hnode : d.node.WellFormed := (Cursor.kept_wellFormed.resolve hc hd).node
    split at hnodes
    · cases hnodes
      exact fun node hnode => absurd hnode List.not_mem_nil
    · cases hnodes
      exact fun node hnode => absurd hnode List.not_mem_nil
    next elements helements =>
      cases hnodes
      rw [helements] at hnode
      intro node hmem
      obtain ⟨v, hv, rfl⟩ := List.mem_map.mp hmem
      exact Json.WellFormed.of_mem hnode hv
    next => cases hnodes

end Sift
