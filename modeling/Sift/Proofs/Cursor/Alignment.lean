import Sift.Proofs.Cursor.Elements
import Sift.Proofs.Json.WellFormed

/-!
# The views of a target line up

A target tells its number of elements, their bare values, and the steps that lead to them, each in its
own way: characters are counted, listed and looked up again by their index. The three agree
(`Cursor.Aligned`). There are as many values as steps, each step leads to a child that is there, and the
node of the child shows the value at the same index: as it is, or in a sequence of members as the member
that has it. The members come in order of their keys, as they stand in the object.
-/

namespace Sift

/-- Arrays, strings and objects viewed as sequences can be stepped through. -/
inductive Node.IsSequence : Node → Prop where
  | array (elements : List Json) : IsSequence (.value (.array elements))
  | string (text : String) : IsSequence (.value (.string text))
  | indexed (members : List Member) : IsSequence (.indexed members)

theorem Node.isSequence_iff {node : Node} :
    node.IsSequence ↔ ∃ target, node.target = .ok (some target) := by
  constructor
  · rintro (elements | text | members)
    · exact ⟨.array elements, rfl⟩
    · exact ⟨.string text, rfl⟩
    · exact ⟨.object members, rfl⟩
  · rintro ⟨target, h⟩
    unfold Node.target at h
    split at h
    case h_3 elements => exact .array elements
    case h_4 text => exact .string text
    case h_5 members => exact .indexed members
    all_goals cases h

namespace Target

theorem length_values (target : Target) : target.values.length = target.size := by
  cases target with
  | array elements => rfl
  | string text => rw [values, size, List.length_map, String.length_toList]
  | object members => exact List.length_map _

theorem length_steps (target : Target) : target.steps.length = target.size := by
  cases target with
  | array elements => rw [steps, size, List.length_map, List.length_range]
  | string text => rw [steps, size, List.length_map, List.length_range]
  | object members => exact List.length_map _

def Shows (indexed : Bool) (node : Node) (v : Json) : Prop :=
  if indexed then ∃ m, node = .entry m ∧ m.value = v else node = .value v

theorem forall₂_shows {node : Node} {target : Target} (h : node.target = .ok (some target)) :
    List.Forall₂ (Shows node.isIndexed) target.nodes target.values := by
  obtain elements | text | members := Node.isSequence_iff.mpr ⟨target, h⟩
  · cases h
    exact List.forall₂_map_left_iff.mpr (List.forall₂_same.mpr fun v _ => rfl)
  · cases h
    rw [nodes, values, List.forall₂_map_left_iff, List.forall₂_map_right_iff]
    exact List.forall₂_same.mpr fun c _ => rfl
  · cases h
    rw [nodes, values, List.forall₂_map_left_iff, List.forall₂_map_right_iff]
    exact List.forall₂_same.mpr fun m _ => ⟨m, rfl, rfl⟩

end Target

namespace Cursor

def StepsTo (c : Cursor) (target : Target) (i : Nat) (d : Cursor) : Prop :=
  ∃ step, target.steps[i]? = some step ∧ c.stepTo step = .ok d

/-- The number of elements, the bare values and the steps of a target describe the same elements. -/
structure Aligned (c : Cursor) (target : Target) : Prop where
  size_eq_values : target.size = target.values.length
  size_eq_steps : target.size = target.steps.length
  element : ∀ i < target.size, ∃ v d, target.values[i]? = some v ∧ c.StepsTo target i d ∧
    d.isPresent = true ∧ d.parent? = some c ∧ Target.Shows c.node.isIndexed d.node v
  ascending : ∀ i j d d' m m', i < j → c.StepsTo target i d → c.StepsTo target j d' →
    d.node = .entry m → d'.node = .entry m' → m.key < m'.key

variable {c : Cursor} {target : Target}

theorem StepsTo.unique {i : Nat} {d d' : Cursor} (h : c.StepsTo target i d)
    (h' : c.StepsTo target i d') : d = d' := by
  obtain ⟨step, hstep, hd⟩ := h
  obtain ⟨step', hstep', hd'⟩ := h'
  obtain rfl : step = step' := Option.some.inj (hstep.symm.trans hstep')
  exact Except.ok.inj (hd.symm.trans hd')

/-- At each index below the size there are a value, and a step to the node that shows it. -/
theorem exists_stepsTo (h : c.node.target = .ok (some target)) {i : Nat} (hi : i < target.size) :
    ∃ v node segment, target.values[i]? = some v ∧ target.nodes[i]? = some node ∧
      c.StepsTo target i (.child c segment node) ∧ Target.Shows c.node.isIndexed node v := by
  have hsteps := forall₂_stepTo h
  have hshows := Target.forall₂_shows h
  have hstep : i < target.steps.length := by rwa [target.length_steps]
  have hvalue : i < target.values.length := by rwa [target.length_values]
  have hnode : i < target.nodes.length := by rwa [← hsteps.length_eq]
  obtain ⟨segment, hsegment⟩ := hsteps.get hstep hnode
  exact ⟨target.values[i], target.nodes[i], segment, List.getElem?_eq_getElem hvalue,
    List.getElem?_eq_getElem hnode, ⟨target.steps[i], List.getElem?_eq_getElem hstep, hsegment⟩,
    hshows.get hnode hvalue⟩

theorem StepsTo.node (h : c.node.target = .ok (some target)) {i : Nat} {d : Cursor}
    (hd : c.StepsTo target i d) : target.nodes[i]? = some d.node := by
  obtain ⟨step, hstep, -⟩ := id hd
  have hi : i < target.size := by
    rw [← target.length_steps]
    exact (List.getElem?_eq_some_iff.mp hstep).1
  obtain ⟨-, node, segment, -, hnode, hchild, -⟩ := exists_stepsTo h hi
  rw [hd.unique hchild]
  exact hnode

/-- Only a sequence of members leads to members. -/
theorem StepsTo.member (h : c.node.target = .ok (some target)) {i : Nat} {d : Cursor}
    (hd : c.StepsTo target i d) {m : Member} (hm : d.node = .entry m) :
    ∃ members, c.node = .indexed members ∧ members[i]? = some m := by
  have hnode := hd.node h
  rw [hm] at hnode
  unfold Node.target at h
  split at h
  case h_3 elements _ =>
    cases h
    simp [Target.nodes] at hnode
  case h_4 text _ =>
    cases h
    simp [Target.nodes] at hnode
  case h_5 members hindexed =>
    cases h
    refine ⟨members, hindexed, ?_⟩
    simpa [Target.nodes] using hnode
  all_goals cases h

/-- Exactly arrays, strings and indexed objects have a target, and its views line up. -/
theorem target_aligned (c : Cursor)
    (hkeys : ∀ members, c.node = .indexed members → Member.Ascending members) :
    (c.node.IsSequence ↔ ∃ target, c.node.target = .ok (some target)) ∧
      ∀ target, c.node.target = .ok (some target) → c.Aligned target := by
  refine ⟨Node.isSequence_iff, fun target h => ?_⟩
  constructor
  case size_eq_values => exact target.length_values.symm
  case size_eq_steps => exact target.length_steps.symm
  case element =>
    intro i hi
    obtain ⟨v, node, segment, hv, hnode, hd, hshows⟩ := exists_stepsTo h hi
    have hpresent := Target.isPresent_of_mem_nodes (List.mem_of_getElem? hnode)
    exact ⟨v, .child c segment node, hv, hd, hpresent, rfl, hshows⟩
  case ascending =>
    intro i j d d' m m' hij hd hd' hm hm'
    obtain ⟨members, hindexed, hi⟩ := hd.member h hm
    obtain ⟨members', hindexed', hj⟩ := hd'.member h hm'
    obtain rfl : members = members' := by
      rw [hindexed] at hindexed'
      exact Node.indexed.inj hindexed'
    obtain ⟨hilt, rfl⟩ := List.getElem?_eq_some_iff.mp hi
    obtain ⟨hjlt, rfl⟩ := List.getElem?_eq_some_iff.mp hj
    exact List.pairwise_iff_getElem.mp (hkeys members hindexed) i j hilt hjlt hij

/-- The second of two members is reached as an entry that has the second value. -/
theorem target_aligned_members :
    Member.Ascending [⟨"a", .null⟩, ⟨"b", .bool true⟩] ∧
      ∃ d, StepsTo (child (root (.value (.object [⟨"a", .null⟩, ⟨"b", .bool true⟩]))) "$indexAsArray"
          (.indexed [⟨"a", .null⟩, ⟨"b", .bool true⟩]))
          (.object [⟨"a", .null⟩, ⟨"b", .bool true⟩]) 1 d ∧
        d.isPresent = true ∧
        d.parent? = some (child (root (.value (.object [⟨"a", .null⟩, ⟨"b", .bool true⟩])))
          "$indexAsArray" (.indexed [⟨"a", .null⟩, ⟨"b", .bool true⟩])) ∧
        ∃ m, d.node = .entry m ∧ m.value = .bool true := by
  have hkeys : Member.Ascending [⟨"a", .null⟩, ⟨"b", .bool true⟩] :=
    List.pairwise_pair.mpr (by decide)
  obtain ⟨-, haligned⟩ := target_aligned
    (child (root (.value (.object [⟨"a", .null⟩, ⟨"b", .bool true⟩]))) "$indexAsArray"
      (.indexed [⟨"a", .null⟩, ⟨"b", .bool true⟩]))
    (fun members h => by
      obtain rfl := Node.indexed.inj h
      exact hkeys)
  obtain ⟨v, d, hv, hd, hpresent, hparent, hshows⟩ :=
    (haligned (.object [⟨"a", .null⟩, ⟨"b", .bool true⟩]) rfl).element 1 (by decide)
  obtain rfl : Json.bool true = v := Option.some.inj hv
  exact ⟨hkeys, d, hd, hpresent, hparent, hshows⟩

end Cursor

end Sift
