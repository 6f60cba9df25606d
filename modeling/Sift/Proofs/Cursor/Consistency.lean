import Mathlib.Data.List.Chain
import Mathlib.Logic.Relation
import Sift.Proofs.Cursor.Ancestry
import Sift.Proofs.Cursor.Composition
import Sift.Proofs.Cursor.Navigation
import Sift.Proofs.Cursor.Stored
import Sift.Proofs.Recorded

/-!
# The parts of a cursor fit together

A cursor tells whether anything is there, where it is, how deep it is, what it was reached from and
where navigation started. `Consistent` says how these answers depend on each other, and that nothing
is found below a place where nothing is. Every cursor that navigation reaches from a root is
consistent, by steps down and up, along references and to computed nodes, in any order. So is what a
cursor has stored that keeps its answers in fields (`consistent_of_navigated`).

For a cursor most of it follows from how cursors are built. What depends on the steps is that absence
is inherited (`InheritsAbsence`): a cursor could be built with something below nothing, but no step
leads to one. Stored answers depend on the steps altogether. They are right since each step leads to
what is stored for where the cursor goes (`stored_navigated_iff`).
-/

namespace Sift

namespace Cursor

/-! ## The line of ancestors -/

theorem lineage_getLast? (c : Cursor) : c.lineage.getLast? = some c := by
  cases c with
  | root node => rfl
  | child parent segment node => exact List.getLast?_concat

theorem lineage_isChain (c : Cursor) : c.lineage.IsChain fun a d => d.parent? = some a := by
  induction c with
  | root node => exact List.isChain_singleton _
  | child parent segment node ih =>
    refine List.isChain_append.mpr ⟨ih, List.isChain_singleton _, fun a ha d hd => ?_⟩
    rw [lineage_getLast?] at ha
    cases ha
    cases hd
    rfl

theorem length_path (c : Cursor) : c.path.length = c.depth := by
  induction c with
  | root node => rfl
  | child parent segment node ih => rw [path, List.length_append, ih, depth, List.length_singleton]

theorem path_eq_nil_iff (c : Cursor) : c.path = [] ↔ c.isRoot = true := by
  cases c with
  | root node => exact ⟨fun _ => rfl, fun _ => rfl⟩
  | child parent segment node => exact ⟨fun h => absurd h (by simp [path]), nofun⟩

theorem path_eq_of_parent? {c p : Cursor} (h : c.parent? = some p) :
    ∃ segment, c.path = p.path ++ [segment] := by
  cases c with
  | root node => cases h
  | child parent segment node =>
    cases h
    exact ⟨segment, rfl⟩

theorem mem_lineage_of_parent? {c p : Cursor} (h : c.parent? = some p) : p ∈ c.lineage := by
  cases c with
  | root node => cases h
  | child parent segment node =>
    cases h
    exact List.mem_append_left _ (List.mem_of_getLast? p.lineage_getLast?)

/-! ## Absence is inherited -/

/-- On the way from the root nothing is found below an absent node. -/
def InheritsAbsence : Cursor → Prop
  | .root _ => True
  | .child parent _ node =>
    parent.InheritsAbsence ∧ (parent.isPresent = false → node.isPresent = false)

theorem kept_inheritsAbsence : Kept InheritsAbsence where
  atField := by
    intro c name node h hnode
    refine ⟨h, fun habsent => ?_⟩
    rw [node_eq_absent habsent] at hnode
    cases hnode
  atElement := by
    intro c i node h hnode
    refine ⟨h, fun habsent => ?_⟩
    rw [node_eq_absent habsent] at hnode
    cases hnode
  belowAbsent _ h _ := ⟨h, fun _ => rfl⟩
  atParent h := h.1

theorem eq_child_of_derive {c d : Cursor} {segment : String} {node : Node}
    (hd : c.derive segment node = .ok d) : c.isPresent = true ∧ d = .child c segment node := by
  unfold Cursor.derive at hd
  split at hd
  next hpresent =>
    cases hd
    exact ⟨hpresent, rfl⟩
  next => cases hd

theorem InheritsAbsence.derive {c d : Cursor} (h : c.InheritsAbsence) {segment : String}
    {node : Node} (hd : c.derive segment node = .ok d) : d.InheritsAbsence := by
  obtain ⟨hpresent, rfl⟩ := eq_child_of_derive hd
  refine ⟨h, fun habsent => ?_⟩
  rw [hpresent] at habsent
  cases habsent

theorem InheritsAbsence.of_mem_lineage {c a : Cursor} (h : c.InheritsAbsence)
    (ha : a ∈ c.lineage) (habsent : a.isPresent = false) : c.isPresent = false := by
  induction c with
  | root node =>
    obtain rfl := List.mem_singleton.mp ha
    exact habsent
  | child parent segment node ih =>
    obtain ha | ha := List.mem_append.mp ha
    · exact h.2 (ih h.1 ha)
    · obtain rfl := List.mem_singleton.mp ha
      exact habsent

/-! ## Runs -/

/-- A step of navigation that succeeds, the step to a computed node included. -/
inductive Step : Cursor → Cursor → Prop where
  | move {c d : Cursor} (h : Move c d) : Step c d
  | derive {c d : Cursor} (segment : String) (node : Node) (h : c.derive segment node = .ok d) :
      Step c d

/-- The cursor is reached from the root of a tree by steps of navigation, in any order. -/
def Navigated (start : Node) (c : Cursor) : Prop :=
  Relation.ReflTransGen Step (.root start) c

/-- How the parts of a cursor depend on each other, in a tree with a node at its root. The line of
cursors from the root leads from each one to a child of it, and ends with the cursor itself. -/
structure Consistent (start : Node) (c : Cursor) : Prop where
  isPresent_iff : c.isPresent = true ↔ c.node ≠ .absent
  lineage_parents : c.lineage.IsChain fun a d => d.parent? = some a
  lineage_self : c.lineage.getLast? = some c
  lineage_top : c.lineage.head? = some c.top
  lineage_length : c.lineage.length = c.path.length + 1
  depth_eq : c.depth = c.path.length
  path_parent : ∀ p, c.parent? = some p → ∃ segment, c.path = p.path ++ [segment]
  top_eq : c.top = .root start
  path_top : c.top.path = []
  isRoot_iff : c.isRoot = true ↔ c.path = []
  absent_of_parent : ∀ p, c.parent? = some p → p.isPresent = false → c.isPresent = false
  absent_of_ancestor : ∀ a ∈ c.lineage, a.isPresent = false → c.isPresent = false

theorem isPresent_iff_ne_absent (c : Cursor) : c.isPresent = true ↔ c.node ≠ .absent := by
  unfold isPresent
  cases c.node <;> simp [Node.isPresent]

theorem InheritsAbsence.consistent {start : Node} {c : Cursor} (h : c.InheritsAbsence)
    (htop : c.top = .root start) : Consistent start c where
  isPresent_iff := c.isPresent_iff_ne_absent
  lineage_parents := c.lineage_isChain
  lineage_self := c.lineage_getLast?
  lineage_top := by rw [List.head?_eq_getElem?, lineage_first]
  lineage_length := by rw [length_lineage, length_path]
  depth_eq := c.length_path.symm
  path_parent _ := path_eq_of_parent?
  top_eq := htop
  path_top := by rw [htop, path]
  isRoot_iff := c.path_eq_nil_iff.symm
  absent_of_parent _ hp := h.of_mem_lineage (mem_lineage_of_parent? hp)
  absent_of_ancestor _ := h.of_mem_lineage

theorem kept_top (start : Node) : Kept fun c => c.top = .root start where
  atField h _ := h
  atElement h _ := h
  belowAbsent _ h _ := h
  atParent h := h

theorem Step.keeps {start : Node} {c d : Cursor} (hstep : Step c d)
    (h : c.InheritsAbsence ∧ c.top = .root start) : d.InheritsAbsence ∧ d.top = .root start := by
  cases hstep with
  | move hmove => exact ⟨kept_inheritsAbsence.move h.1 hmove, (kept_top start).move h.2 hmove⟩
  | derive segment node hd =>
    have hinherits := h.1.derive hd
    obtain ⟨-, rfl⟩ := eq_child_of_derive hd
    exact ⟨hinherits, h.2⟩

theorem Navigated.keeps {start : Node} {c : Cursor} (h : Navigated start c) :
    c.InheritsAbsence ∧ c.top = .root start := by
  induction h with
  | refl => exact ⟨trivial, rfl⟩
  | tail _ hstep ih => exact hstep.keeps ih

theorem Navigated.consistent {start : Node} {c : Cursor} (h : Navigated start c) :
    Consistent start c := by
  obtain ⟨hinherits, htop⟩ := h.keeps
  exact hinherits.consistent htop

end Cursor

/-! ## Stored answers -/

namespace Stored

/-- The parents on the way to the root, the nearest one first. -/
def ancestors (s : Stored) : List Stored :=
  match s with
  | ⟨_, _, _, none, _⟩ => []
  | ⟨_, _, _, some parent, _⟩ => parent :: parent.ancestors

inductive Step : Stored → Stored → Prop where
  | field {s t : Stored} (name : String) (h : s.field name = .ok t) : Step s t
  | fieldOfKey {s t : Stored} (key : Json) (h : s.fieldOfKey key = .ok t) : Step s t
  | follow {s t : Stored} (path : String) (h : s.follow path = .ok t) : Step s t
  | element {s t : Stored} (i : Nat) (h : s.element i = .ok t) : Step s t
  | resolve {s t : Stored} (r : Reference) (h : s.resolve r.path = .ok t) : Step s t
  | derive {s t : Stored} (segment : String) (node : Node) (h : s.derive segment node = .ok t) :
      Step s t
  | parent {s t : Stored} (h : s.parent? = some t) : Step s t
  | root (s : Stored) : Step s s.root

def Navigated (start : Node) (s : Stored) : Prop :=
  Relation.ReflTransGen Step (.start start) s

/-- How the fields depend on each other, in a tree with a node at its root. -/
structure Consistent (start : Node) (s : Stored) : Prop where
  present_iff : s.present = true ↔ s.node ≠ .absent
  length_ancestors : s.ancestors.length = s.path.length
  path_parent : ∀ p, s.parent? = some p → ∃ segment, s.path = p.path ++ [segment]
  root_last : (s :: s.ancestors).getLast? = some s.root
  root_eq : s.root = .start start
  root_path : s.root.path = []
  isRoot_iff : s.parent? = none ↔ s.path = []
  absent_of_parent : ∀ p, s.parent? = some p → p.present = false → s.present = false

end Stored

namespace Cursor

variable {start : Node} {c : Cursor}

theorem length_ancestors_stored (c : Cursor) : c.stored.ancestors.length = c.depth := by
  induction c with
  | root node => rfl
  | child parent segment node ih =>
    change (parent.stored :: parent.stored.ancestors).length = parent.depth + 1
    rw [List.length_cons, ih]

theorem ancestors_stored_getLast? (c : Cursor) :
    (c.stored :: c.stored.ancestors).getLast? = some c.stored.root := by
  induction c with
  | root node => rfl
  | child parent segment node ih =>
    change (_ :: parent.stored :: parent.stored.ancestors).getLast? = some parent.stored.root
    rw [List.getLast?_cons_cons, ih]

theorem exists_of_parent?_stored {p : Stored} (h : c.stored.parent? = some p) :
    ∃ parent, c.parent? = some parent ∧ parent.stored = p := by
  rw [stored_parent?] at h
  exact Option.map_eq_some_iff.mp h

theorem Consistent.stored (h : Consistent start c) : c.stored.Consistent start where
  present_iff := by
    rw [stored_present, stored_node]
    exact h.isPresent_iff
  length_ancestors := by rw [length_ancestors_stored, stored_path, h.depth_eq]
  path_parent := by
    intro p hp
    obtain ⟨parent, hparent, rfl⟩ := exists_of_parent?_stored hp
    rw [stored_path, stored_path]
    exact h.path_parent parent hparent
  root_last := c.ancestors_stored_getLast?
  root_eq := by
    rw [stored_root, h.top_eq]
    rfl
  root_path := by rw [stored_root, stored_path, h.path_top]
  isRoot_iff := by
    rw [stored_path, ← h.isRoot_iff]
    cases c with
    | root node => exact iff_of_true rfl rfl
    | child parent segment node => exact iff_of_false nofun nofun
  absent_of_parent := by
    intro p hp habsent
    obtain ⟨parent, hparent, rfl⟩ := exists_of_parent?_stored hp
    rw [stored_present] at habsent ⊢
    exact h.absent_of_parent parent hparent habsent

theorem Step.stored {d : Cursor} (h : Step c d) : Stored.Step c.stored d.stored := by
  cases h with
  | move hmove =>
    cases hmove with
    | field name hd => exact .field name (by rw [stored_field, hd]; rfl)
    | fieldOfKey key hd => exact .fieldOfKey key (by rw [stored_fieldOfKey, hd]; rfl)
    | follow path hd => exact .follow path (by rw [stored_follow, hd]; rfl)
    | element i hd => exact .element i (by rw [stored_element, hd]; rfl)
    | resolve r hd => exact .resolve r (by rw [stored_resolve, hd]; rfl)
    | parent hd => exact .parent (by rw [stored_parent?, hd]; rfl)
    | top =>
      rw [← stored_root]
      exact .root c.stored
  | derive segment node hd => exact .derive segment node (by rw [stored_derive, hd]; rfl)

theorem exists_of_step_stored {t : Stored} (h : Stored.Step c.stored t) :
    ∃ d, Step c d ∧ d.stored = t := by
  cases h with
  | field name ht =>
    obtain ⟨d, hd, rfl⟩ := Except.map_eq_ok.mp ((c.stored_field name).symm.trans ht)
    exact ⟨d, .move (.field name hd), rfl⟩
  | fieldOfKey key ht =>
    obtain ⟨d, hd, rfl⟩ := Except.map_eq_ok.mp ((c.stored_fieldOfKey key).symm.trans ht)
    exact ⟨d, .move (.fieldOfKey key hd), rfl⟩
  | follow path ht =>
    obtain ⟨d, hd, rfl⟩ := Except.map_eq_ok.mp ((c.stored_follow path).symm.trans ht)
    exact ⟨d, .move (.follow path hd), rfl⟩
  | element i ht =>
    obtain ⟨d, hd, rfl⟩ := Except.map_eq_ok.mp ((c.stored_element i).symm.trans ht)
    exact ⟨d, .move (.element i hd), rfl⟩
  | resolve r ht =>
    obtain ⟨d, hd, rfl⟩ := Except.map_eq_ok.mp ((c.stored_resolve r.path).symm.trans ht)
    exact ⟨d, .move (.resolve r hd), rfl⟩
  | derive segment node ht =>
    obtain ⟨d, hd, rfl⟩ := Except.map_eq_ok.mp ((c.stored_derive segment node).symm.trans ht)
    exact ⟨d, .derive segment node hd, rfl⟩
  | parent ht =>
    obtain ⟨d, hd, rfl⟩ := exists_of_parent?_stored ht
    exact ⟨d, .move (.parent hd), rfl⟩
  | root => exact ⟨c.top, .move (.top c), c.stored_root.symm⟩

/-- Cursors that store their answers are reached by the steps that the cursors are reached by. -/
theorem stored_navigated_iff {s : Stored} :
    s.Navigated start ↔ ∃ c, Navigated start c ∧ c.stored = s := by
  constructor
  · intro h
    induction h with
    | refl => exact ⟨.root start, .refl, rfl⟩
    | tail _ hstep ih =>
      obtain ⟨c, hc, rfl⟩ := ih
      obtain ⟨d, hd, rfl⟩ := exists_of_step_stored hstep
      exact ⟨d, hc.tail hd, rfl⟩
  · rintro ⟨c, hc, rfl⟩
    induction hc with
    | refl => exact .refl
    | tail _ hstep ih => exact ih.tail hstep.stored

/-- Whatever navigation reaches is consistent. So are cursors that store their answers, which are
reached by the same steps. -/
theorem consistent_of_navigated (start : Node) :
    (∀ c : Cursor, Navigated start c → Consistent start c) ∧
    (∀ s : Stored, s.Navigated start → s.Consistent start) ∧
    ∀ s : Stored, s.Navigated start ↔ ∃ c : Cursor, Navigated start c ∧ c.stored = s := by
  refine ⟨fun c hc => hc.consistent, fun s hs => ?_, fun s => stored_navigated_iff⟩
  obtain ⟨c, hc, rfl⟩ := stored_navigated_iff.mp hs
  exact hc.consistent.stored

/-- A computed node may be absent. What is then reached by a path and a climb is absent too, three
steps away from the root, and is stored so. -/
theorem consistent_of_navigated_absent :
    Navigated (.value (.object [⟨"s", .string "abc"⟩]))
        (child (child (child (root (.value (.object [⟨"s", .string "abc"⟩]))) "s"
          (.value (.string "abc"))) "gone" .absent) "x" .absent) ∧
      (child (child (child (root (.value (.object [⟨"s", .string "abc"⟩]))) "s"
        (.value (.string "abc"))) "gone" .absent) "x" .absent).lineage.length = 4 ∧
      (child (child (child (root (.value (.object [⟨"s", .string "abc"⟩]))) "s"
        (.value (.string "abc"))) "gone" .absent) "x" .absent).isPresent = false ∧
      (child (child (child (root (.value (.object [⟨"s", .string "abc"⟩]))) "s"
        (.value (.string "abc"))) "gone" .absent) "x" .absent).stored.ancestors.length = 3 ∧
      (child (child (child (root (.value (.object [⟨"s", .string "abc"⟩]))) "s"
        (.value (.string "abc"))) "gone" .absent) "x" .absent).stored.root =
          .start (.value (.object [⟨"s", .string "abc"⟩])) := by
  have hfield : Navigated (.value (.object [⟨"s", .string "abc"⟩]))
      (child (root (.value (.object [⟨"s", .string "abc"⟩]))) "s" (.value (.string "abc"))) :=
    .single (.move (.field "s" rfl))
  have hderived : Navigated (.value (.object [⟨"s", .string "abc"⟩]))
      (child (child (root (.value (.object [⟨"s", .string "abc"⟩]))) "s" (.value (.string "abc")))
        "gone" .absent) :=
    hfield.tail (.derive "gone" .absent rfl)
  have hpath : Navigated (.value (.object [⟨"s", .string "abc"⟩]))
      (child (child (child (child (root (.value (.object [⟨"s", .string "abc"⟩]))) "s"
        (.value (.string "abc"))) "gone" .absent) "x" .absent) "y" .absent) :=
    hderived.tail (.move (.follow "x.y" rfl))
  have hparent : Navigated (.value (.object [⟨"s", .string "abc"⟩]))
      (child (child (child (root (.value (.object [⟨"s", .string "abc"⟩]))) "s"
        (.value (.string "abc"))) "gone" .absent) "x" .absent) :=
    hpath.tail (.move (.parent rfl))
  obtain ⟨hcursors, hstored, hiff⟩ :=
    consistent_of_navigated (.value (.object [⟨"s", .string "abc"⟩]))
  have hconsistent := hcursors _ hparent
  have hfields := hstored _ ((hiff _).mpr ⟨_, hparent, rfl⟩)
  exact ⟨hparent, hconsistent.lineage_length, hconsistent.absent_of_parent _ rfl rfl,
    hfields.length_ancestors, hfields.root_eq⟩

end Cursor

end Sift
