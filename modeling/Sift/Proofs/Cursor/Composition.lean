import Sift.Proofs.Cursor.Resolution
import Sift.Proofs.Path.Grammar
import Sift.Proofs.Recorded

/-!
# Paths one after the other

Two paths with a dot between them lead where the second one leads from the end of the first
(`Cursor.follow_dot`), as their segments are those of the one and then those of the other. A path
leads from what is null or absent to what is absent, and from a node that has no fields nowhere.
-/

namespace Sift.Cursor

variable {c : Cursor}

/-! ## Two paths -/

theorem descend_append (c : Cursor) (segments segments' : List String) :
    c.descend (segments ++ segments') = c.descend segments >>= fun d => d.descend segments' := by
  unfold descend
  exact List.foldlM_append

theorem follow_of_isValid {path : String} {segments : List String}
    (hsplit : Path.split path = .ok segments) (hroot : ¬['^'] <+: path.toList) (c : Cursor) :
    c.follow path = c.descend segments := by
  have hvalid : Path.IsValid path := ⟨segments, hsplit⟩
  unfold follow descendPath
  rw [afterRoot?_eq_none hroot, afterParent?_eq_none hvalid.not_parent, hsplit]
  rfl

theorem not_root_dot {p : String} (hp : Path.IsValid p) (hroot : ¬['^'] <+: p.toList) (q : String) :
    ¬['^'] <+: (p ++ "." ++ q).toList := by
  intro hprefix
  have hhead : (p ++ "." ++ q).toList.head? = some '^' := by
    obtain ⟨rest, hrest⟩ := hprefix
    rw [← hrest]
    rfl
  rw [hp.head?_dot] at hhead
  obtain ⟨rest, hrest⟩ := List.head?_eq_some_iff.mp hhead
  rw [hrest] at hroot
  exact hroot (List.prefix_append ['^'] rest)

theorem follow_dot {p q : String} (hp : Path.IsValid p) (hq : Path.IsValid q)
    (hproot : ¬['^'] <+: p.toList) (hqroot : ¬['^'] <+: q.toList) (c : Cursor) :
    c.follow (p ++ "." ++ q) = c.follow p >>= fun d => d.follow q := by
  obtain ⟨segments, hsplit⟩ := hp
  obtain ⟨segments', hsplit'⟩ := hq
  have hnot := not_root_dot ⟨segments, hsplit⟩ hproot q
  have hrest : (fun d : Cursor => d.follow q) = fun d => d.descend segments' :=
    funext fun d => follow_of_isValid hsplit' hqroot d
  rw [follow_of_isValid (Path.split_dot hsplit hsplit') hnot, follow_of_isValid hsplit hproot,
    descend_append, hrest]

/-- Two paths with a dot between them have the segments of both, and lead from any cursor where the
second one leads from the end of the first, or fail as the one or the other does. -/
theorem follow_composes {p q : String} (hp : Path.IsValid p) (hq : Path.IsValid q)
    (hproot : ¬['^'] <+: p.toList) (hqroot : ¬['^'] <+: q.toList) (c : Cursor) :
    (∃ segments segments', Path.split p = .ok segments ∧ Path.split q = .ok segments' ∧
      Path.split (p ++ "." ++ q) = .ok (segments ++ segments')) ∧
    c.follow (p ++ "." ++ q) = c.follow p >>= fun d => d.follow q := by
  refine ⟨?_, follow_dot hp hq hproot hqroot c⟩
  obtain ⟨segments, hsplit⟩ := hp
  obtain ⟨segments', hsplit'⟩ := hq
  exact ⟨segments, segments', hsplit, hsplit', Path.split_dot hsplit hsplit'⟩

/-- The second path starts in quotes, where the first one has left what is there. -/
theorem follow_composes_quoted :
    Path.IsValid "a.'b.c'" ∧ Path.IsValid "\"^x\".y" ∧
    ¬['^'] <+: "a.'b.c'".toList ∧ ¬['^'] <+: "\"^x\".y".toList ∧
    (root (.value (.object [⟨"a", .object []⟩]))).follow ("a.'b.c'" ++ "." ++ "\"^x\".y") =
      .ok (child (child (child (child (root (.value (.object [⟨"a", .object []⟩]))) "a"
        (.value (.object []))) "b.c" .absent) "^x" .absent) "y" .absent) := by
  have hp : Path.IsValid "a.'b.c'" := ⟨["a", "b.c"], rfl⟩
  have hq : Path.IsValid "\"^x\".y" := ⟨["^x", "y"], rfl⟩
  have hproot : ¬['^'] <+: "a.'b.c'".toList := by decide
  have hqroot : ¬['^'] <+: "\"^x\".y".toList := by decide
  refine ⟨hp, hq, hproot, hqroot, ?_⟩
  rw [(follow_composes hp hq hproot hqroot _).2]
  rfl

/-! ## Where there is nothing to step to -/

theorem node_eq_absent (h : c.isPresent = false) : c.node = .absent := by
  unfold isPresent at h
  cases hnode : c.node with
  | absent => rfl
  | _ =>
    rw [hnode] at h
    cases h

theorem step_of_isNullish (h : c.node.isNullish = true) (segment : String) :
    c.step segment = .ok (.child c segment .absent) := by
  unfold step field isPresent
  cases hnode : c.node with
  | absent => rfl
  | value v =>
    cases v with
    | null => rfl
    | _ =>
      rw [hnode] at h
      cases h
  | _ =>
    rw [hnode] at h
    cases h

theorem descend_of_isNullish (h : c.node.isNullish = true) {segments : List String}
    (hne : segments ≠ []) : ∃ d, c.descend segments = .ok d ∧ d.node = .absent := by
  induction segments generalizing c with
  | nil => exact absurd rfl hne
  | cons segment rest ih =>
    unfold descend at ih ⊢
    rw [List.foldlM_cons, step_of_isNullish h]
    cases rest with
    | nil => exact ⟨_, rfl, rfl⟩
    | cons _ _ => exact ih (c := .child c segment .absent) rfl (List.cons_ne_nil _ _)

theorem descendPath_of_isNullish (h : c.node.isNullish = true) {path : String}
    (hpath : Path.IsValid path) : ∃ d, c.descendPath path = .ok d ∧ d.node = .absent := by
  obtain ⟨segments, hsplit⟩ := hpath
  unfold descendPath
  rw [hsplit]
  exact descend_of_isNullish h (Path.split_ne_nil hsplit)

theorem follow_of_isNullish (h : c.node.isNullish = true) {path : String}
    (hpath : Path.IsValid path) (hroot : ¬['^'] <+: path.toList) :
    ∃ d, c.follow path = .ok d ∧ d.node = .absent := by
  obtain ⟨segments, hsplit⟩ := hpath
  rw [follow_of_isValid hsplit hroot]
  exact descend_of_isNullish h (Path.split_ne_nil hsplit)

theorem field?_eq_none {node : Node} (h : node.acceptsFields = false) (name : String) :
    node.field? name = none := by
  cases node with
  | absent | indexed _ => cases h
  | entry _ => rfl
  | value v =>
    cases v with
    | null | array _ | object _ => cases h
    | _ => rfl

theorem follow_of_not_acceptsFields (h : c.node.acceptsFields = false) {path : String}
    (hpath : Path.IsValid path) (hroot : ¬['^'] <+: path.toList) :
    ∃ e, c.follow path = .error e := by
  have hpresent : c.isPresent = true := by
    refine Bool.of_not_eq_false fun hc => ?_
    rw [node_eq_absent hc] at h
    cases h
  have hstep : ∀ segment, c.step segment = c.fail (.noFields c.node) := by
    intro segment
    unfold step field
    rw [if_pos hpresent, field?_eq_none h]
  obtain ⟨segments, hsplit⟩ := hpath
  obtain ⟨segment, rest, rfl⟩ := List.exists_cons_of_ne_nil (Path.split_ne_nil hsplit)
  refine ⟨.navigation (.noFields c.node) c.pathText, ?_⟩
  rw [follow_of_isValid hsplit hroot]
  unfold descend
  rw [List.foldlM_cons, hstep]
  rfl

end Sift.Cursor
