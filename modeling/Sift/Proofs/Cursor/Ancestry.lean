import Sift.Proofs.Cursor.Resolution

/-!
# References that climb

`lineage` is the line of cursors from the root of a tree down to a cursor. A reference that climbs `k`
times (`climbing k path`) is followed from the cursor `k` places before the end of that line, whatever
steps made it, and fails at the root if it is to climb on from there. One that starts with `^` is
followed from the beginning of the line: it leads to one place from all cursors of a tree, as many
climbs away as the cursor is deep (`resolve_reaches_ancestor`).
-/

namespace Sift.Cursor

/-! ## Ancestors -/

/-- The cursors from the root down to this one. -/
def lineage : Cursor → List Cursor
  | .root node => [.root node]
  | .child parent segment node => parent.lineage ++ [.child parent segment node]

theorem length_lineage (c : Cursor) : c.lineage.length = c.depth + 1 := by
  induction c with
  | root node => rfl
  | child parent segment node ih => simp [lineage, depth, ih]

theorem lineage_first (c : Cursor) : c.lineage[0]? = some c.top := by
  induction c with
  | root node => rfl
  | child parent segment node ih =>
    have hlt : 0 < parent.lineage.length := by
      rw [length_lineage]
      omega
    rw [lineage, List.getElem?_append_left hlt, ih]
    rfl

theorem lineage_last (c : Cursor) : c.lineage[c.depth]? = some c := by
  cases c with
  | root node => rfl
  | child parent segment node =>
    have hlength : parent.lineage.length = (child parent segment node).depth :=
      length_lineage parent
    rw [lineage, ← hlength, List.getElem?_concat_length]

theorem lineage_child {parent : Cursor} {i : Nat} (h : i ≤ parent.depth) (segment : String)
    (node : Node) : (child parent segment node).lineage[i]? = parent.lineage[i]? := by
  have hlt : i < parent.lineage.length := by
    rw [length_lineage]
    omega
  rw [lineage, List.getElem?_append_left hlt]

/-! ## Climbing -/

/-- The reference that climbs to the parent so many times and then goes along a path. -/
def climbing : Nat → String → String
  | 0, path => path
  | k + 1, path => "../" ++ climbing k path

theorem toList_parent (path : String) : ("../" ++ path).toList = '.' :: '.' :: '/' :: path.toList :=
  String.toList_append

theorem afterRoot?_parent (path : String) : afterRoot? ("../" ++ path) = none := by
  unfold afterRoot?
  rw [toList_parent]
  rfl

theorem afterParent?_parent (path : String) : afterParent? ("../" ++ path) = some path := by
  unfold afterParent?
  rw [toList_parent]
  simp only [String.ofList_toList]

theorem resolve_parent_child (parent : Cursor) (segment : String) (node : Node) (path : String) :
    (child parent segment node).resolve ("../" ++ path) = parent.resolve path := by
  rw [resolve, afterRoot?_parent, afterParent?_parent]

theorem resolve_parent_root (node : Node) (path : String) :
    (root node).resolve ("../" ++ path) = .error (.navigation .noParent "") := by
  rw [resolve, afterRoot?_parent, afterParent?_parent]
  rfl

theorem follow_of_isLocal {path : String} (h : (Reference.mk path).IsLocal) (c : Cursor) :
    c.follow path = c.descendPath path := by
  rw [follow, afterRoot?_eq_none h.1, afterParent?_eq_none h.2]
  rfl

section
variable {path : String}

/-- One climb more from a child is the climb from its parent. -/
theorem resolve_climbing (hlocal : (Reference.mk path).IsLocal) (c : Cursor) (k : Nat)
    (hk : k ≤ c.depth) :
    ∃ a, c.lineage[c.depth - k]? = some a ∧ c.resolve (climbing k path) = a.follow path := by
  induction c generalizing k with
  | root node =>
    have hzero : k = 0 := Nat.le_zero.mp hk
    subst hzero
    refine ⟨.root node, rfl, ?_⟩
    rw [follow_of_isLocal hlocal]
    exact resolve_of_isLocal hlocal _
  | child parent segment node ih =>
    cases k with
    | zero =>
      refine ⟨.child parent segment node, lineage_last _, ?_⟩
      rw [follow_of_isLocal hlocal]
      exact resolve_of_isLocal hlocal _
    | succ k =>
      have hk' : k ≤ parent.depth := Nat.le_of_succ_le_succ hk
      obtain ⟨a, ha, hresolve⟩ := ih k hk'
      have hindex : (child parent segment node).depth - (k + 1) = parent.depth - k := by
        rw [depth]
        omega
      refine ⟨a, ?_, ?_⟩
      · rw [hindex, lineage_child (Nat.sub_le _ _), ha]
      · rw [climbing, resolve_parent_child, hresolve]

theorem resolve_climbing_beyond (c : Cursor) (k : Nat) (hk : c.depth < k) :
    c.resolve (climbing k path) = .error (.navigation .noParent "") := by
  induction c generalizing k with
  | root node =>
    obtain ⟨k, rfl⟩ := Nat.exists_eq_succ_of_ne_zero (Nat.ne_of_gt hk)
    rw [climbing, resolve_parent_root]
  | child parent segment node ih =>
    obtain ⟨k, rfl⟩ := Nat.exists_eq_succ_of_ne_zero (Nat.ne_of_gt (Nat.zero_lt_of_lt hk))
    have hk' : parent.depth < k := Nat.lt_of_succ_lt_succ hk
    rw [climbing, resolve_parent_child, ih k hk']

/-- The climb to the root is as long as the cursor is deep. -/
theorem resolve_climbing_depth (hlocal : (Reference.mk path).IsLocal) (c : Cursor) :
    c.resolve (climbing c.depth path) = c.top.follow path := by
  obtain ⟨a, ha, hresolve⟩ := resolve_climbing hlocal c c.depth (Nat.le_refl _)
  rw [Nat.sub_self, lineage_first] at ha
  obtain rfl := Option.some.inj ha
  exact hresolve

end

/-- A reference that climbs goes on from the ancestor that it reaches, or fails at the root; one that
starts with `^` goes on from the root, as does one that climbs all the way there. -/
theorem resolve_reaches_ancestor {path : String} (hlocal : (Reference.mk path).IsLocal)
    (c : Cursor) :
    (∀ k ≤ c.depth, ∃ a, c.lineage[c.depth - k]? = some a ∧
      c.resolve (climbing k path) = a.follow path) ∧
    (∀ k > c.depth, c.resolve (climbing k path) = .error (.navigation .noParent "") ∧
      NavigationFault.noParent.message = "cannot get parent of root context") ∧
    (∃ a, c.lineage[0]? = some a ∧ c.resolve ("^" ++ path) = a.follow path) ∧
    ∀ d : Cursor, d.top = c.top → d.resolve ("^" ++ path) = c.resolve ("^" ++ path) ∧
      d.resolve ("^" ++ path) = d.resolve (climbing d.depth path) := by
  have hroot : ∀ d : Cursor, d.resolve ("^" ++ path) = d.top.follow path := by
    intro d
    rw [resolve_caret, follow_of_isLocal hlocal]
  refine ⟨resolve_climbing hlocal c, fun k hk => ⟨resolve_climbing_beyond c k hk, rfl⟩,
    ⟨c.top, lineage_first c, hroot c⟩, fun d hd => ⟨?_, ?_⟩⟩
  · rw [hroot, hroot, hd]
  · rw [hroot, resolve_climbing_depth hlocal]

/-- From an element that is missing: two climbs lead to the root and a third one fails. -/
theorem resolve_reaches_ancestor_absent :
    (Reference.mk "limit").IsLocal ∧
    (child (child (root (.value (.object [⟨"limit", .ofNat 5⟩]))) "length" (.value (.ofNat 1))) "7"
      .absent).resolve "../../limit" =
      (root (.value (.object [⟨"limit", .ofNat 5⟩]))).follow "limit" ∧
    (child (child (root (.value (.object [⟨"limit", .ofNat 5⟩]))) "length" (.value (.ofNat 1))) "7"
      .absent).resolve "../../../limit" = .error (.navigation .noParent "") := by
  have hlocal : (Reference.mk "limit").IsLocal := by decide
  obtain ⟨hclimb, hbeyond, -, -⟩ := resolve_reaches_ancestor hlocal
    (child (child (root (.value (.object [⟨"limit", .ofNat 5⟩]))) "length" (.value (.ofNat 1))) "7"
      .absent)
  obtain ⟨a, ha, hresolve⟩ := hclimb 2 (Nat.le_refl _)
  cases ha
  exact ⟨hlocal, hresolve, (hbeyond 3 (by decide)).1⟩

end Sift.Cursor
