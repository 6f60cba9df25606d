import Mathlib.Data.List.Forall2
import Sift.Condition.Target

/-!
# The elements of a target

A target tells its elements in two ways: as bare values (`Target.values`), and as steps from the
cursor whose node it is (`Target.steps`). The two line up: `Target.nodes` are the nodes of the elements
in the order of their values, and the steps lead to children with these nodes
(`Cursor.forall₂_stepTo`).
-/

namespace Sift

namespace Target

def nodes : Target → List Node
  | .array elements => elements.map .value
  | .string text => text.toList.map fun c => .value (.ofChar c)
  | .object members => members.map .entry

theorem isPresent_of_mem_nodes {target : Target} {node : Node} (h : node ∈ target.nodes) :
    node.isPresent = true := by
  cases target with
  | array elements =>
    obtain ⟨v, -, rfl⟩ := List.mem_map.mp h
    rfl
  | string text =>
    obtain ⟨c, -, rfl⟩ := List.mem_map.mp h
    rfl
  | object members =>
    obtain ⟨m, -, rfl⟩ := List.mem_map.mp h
    rfl

end Target

namespace Cursor

variable {c : Cursor} {target : Target}

theorem derive_eq (hc : c.isPresent = true) (segment : String) (node : Node) :
    c.derive segment node = .ok (.child c segment node) := by
  rw [derive, if_pos hc]

theorem isPresent_of_target (h : c.node.target = .ok (some target)) : c.isPresent = true := by
  unfold isPresent
  cases hnode : c.node with
  | absent =>
    rw [hnode] at h
    cases h
  | _ => rfl

/-- Steps by index lead to the nodes, if each index has its node. -/
theorem forall₂_index (hc : c.isPresent = true) {n : Nat} {nodes : List Node}
    (hlength : n = nodes.length)
    (h : ∀ i node, nodes[i]? = some node → c.node.element? i = some node) :
    List.Forall₂ (fun step node => ∃ segment, c.stepTo step = .ok (.child c segment node))
      ((List.range n).map .index) nodes := by
  rw [List.forall₂_map_left_iff, List.forall₂_iff_get]
  refine ⟨by rw [List.length_range, hlength], fun i _ hi => ⟨toString i, ?_⟩⟩
  have hnode : nodes[i]? = some nodes[i] := List.getElem?_eq_getElem hi
  rw [List.get_eq_getElem, List.get_eq_getElem, List.getElem_range]
  change c.element i = _
  rw [element, if_pos hc, h i nodes[i] hnode]

theorem forall₂_stepTo (h : c.node.target = .ok (some target)) :
    List.Forall₂ (fun step node => ∃ segment, c.stepTo step = .ok (.child c segment node))
      target.steps target.nodes := by
  have hc := isPresent_of_target h
  unfold Node.target at h
  split at h
  case h_3 elements hnode =>
    cases h
    refine forall₂_index hc (List.length_map _).symm fun i node hi => ?_
    rw [Target.nodes, List.getElem?_map, Option.map_eq_some_iff] at hi
    obtain ⟨v, hv, rfl⟩ := hi
    rw [hnode, Node.element?, hv]
    rfl
  case h_4 text hnode =>
    cases h
    have hlength : text.length = (Target.string text).nodes.length := by
      rw [Target.nodes, List.length_map, String.length_toList]
    refine forall₂_index hc hlength fun i node hi => ?_
    rw [Target.nodes, List.getElem?_map, Option.map_eq_some_iff] at hi
    obtain ⟨char, hchar, rfl⟩ := hi
    rw [hnode, Node.element?, hchar]
    rfl
  case h_5 members hnode =>
    cases h
    rw [Target.steps, Target.nodes, List.forall₂_map_left_iff, List.forall₂_map_right_iff]
    exact List.forall₂_same.mpr fun m _ => ⟨m.key, derive_eq hc m.key (.entry m)⟩
  all_goals cases h

end Cursor

end Sift
