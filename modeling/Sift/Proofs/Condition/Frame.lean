import Sift.Proofs.Condition.References
import Sift.Proofs.Condition.Single
import Sift.Proofs.Cursor.Resolution
import Sift.Proofs.Json.WellFormed
import Sift.Proofs.Path.Grammar
import Sift.Proofs.Pattern.Plain

/-!
# Fields that a condition does not touch

A condition of field clauses, combined by connectives and negations, looks at an object only through
the paths of its fields and through the references that climb. If none of them starts with a key, the
value at that key does not matter: the condition comes to one result for the object and for the object
with another value there (`isMatch_insert`).

The two evaluations take the same steps. Their roots differ, but below the roots they are always at
cursors with one node, reached in one way (`Cursor.Parallel`).
-/

namespace Sift

/-! ## Climbing -/

namespace Path

/-- What is left of a path once it has climbed as far as it does: to parents, and then to the
root. -/
def afterClimb : List Char → List Char
  | '^' :: rest => rest
  | '.' :: '.' :: '/' :: rest => afterClimb rest
  | cs => cs

def Skips (k path : String) : Prop :=
  ∀ segments, split path = .ok segments → segments.head? ≠ some k

def SkipsAfterClimb (k path : String) : Prop :=
  Skips k (String.ofList (afterClimb path.toList))

end Path

namespace Cursor

variable {k path rest : String}

theorem skips_of_afterRoot? (h : afterRoot? path = some rest) (hpath : Path.SkipsAfterClimb k path) :
    Path.Skips k rest := by
  unfold afterRoot? at h
  split at h
  next cs hcs =>
    cases h
    rw [Path.SkipsAfterClimb, hcs, Path.afterClimb] at hpath
    exact hpath
  next => cases h

theorem skips_of_afterParent? (h : afterParent? path = some rest)
    (hpath : Path.SkipsAfterClimb k path) : Path.SkipsAfterClimb k rest := by
  unfold afterParent? at h
  split at h
  next cs hcs =>
    cases h
    rw [Path.SkipsAfterClimb, hcs, Path.afterClimb] at hpath
    rw [Path.SkipsAfterClimb, String.toList_ofList]
    exact hpath
  next => cases h

theorem skips_of_local (hroot : afterRoot? path = none) (hparent : afterParent? path = none)
    (hpath : Path.SkipsAfterClimb k path) : Path.Skips k path := by
  have hleft : Path.afterClimb path.toList = path.toList := by
    unfold afterRoot? at hroot
    unfold afterParent? at hparent
    unfold Path.afterClimb
    split
    next rest hcs =>
      rw [hcs] at hroot
      cases hroot
    next rest hcs =>
      rw [hcs] at hparent
      cases hparent
    next => rfl
  rw [Path.SkipsAfterClimb, hleft, String.ofList_toList] at hpath
  exact hpath

end Cursor

/-! ## Below two roots -/

/-- The objects have the same values at all keys but one. -/
def Member.AgreeBut (k : String) (members members' : List Member) : Prop :=
  ∀ key, k ≠ key → lookup key members = lookup key members'

namespace Cursor

def ofObject (members : List Member) : Cursor :=
  .root (.value (.object members))

/-- The cursors were reached from two objects by the same steps, at least one, and they point at one
node. -/
inductive Parallel (members members' : List Member) : Cursor → Cursor → Prop where
  | first (segment : String) (node : Node) :
      Parallel members members' (.child (ofObject members) segment node)
        (.child (ofObject members') segment node)
  | child {c d : Cursor} (h : Parallel members members' c d) (segment : String) (node : Node) :
      Parallel members members' (.child c segment node) (.child d segment node)

variable {k path : String} {members members' : List Member} {c d : Cursor}

theorem Parallel.path_eq (h : Parallel members members' c d) : c.path = d.path := by
  induction h with
  | first segment node => rfl
  | child _ segment node ih => rw [Cursor.path, Cursor.path, ih]

theorem Parallel.top_eq (h : Parallel members members' c d) :
    c.top = ofObject members ∧ d.top = ofObject members' := by
  induction h with
  | first segment node => exact ⟨rfl, rfl⟩
  | child _ segment node ih => exact ih

theorem simulation_parallel (members members' : List Member) :
    Simulation Eq (Parallel members members') where
  refl _ := rfl
  node_eq h := by cases h <;> rfl
  child h segment node := h.child segment node
  fault h fault := by rw [pathText, pathText, h.path_eq]

/-- A path that does not start with the key leads below both objects alike. -/
theorem descendPath_agree (hagree : Member.AgreeBut k members members')
    (hpath : Path.Skips k path) :
    Agree Eq (Parallel members members') ((ofObject members).descendPath path)
      ((ofObject members').descendPath path) := by
  unfold descendPath
  cases hsplit : Path.split path with
  | error e => exact .error rfl
  | ok segments =>
    cases segments with
    | nil => exact absurd rfl (Path.split_ne_nil hsplit)
    | cons segment rest =>
      have hne : k ≠ segment := fun heq => hpath _ hsplit (congrArg some heq.symm)
      have hfirst : Agree Eq (Parallel members members') ((ofObject members).step segment)
          ((ofObject members').step segment) := by
        change Agree Eq _ (.ok (Cursor.child _ segment (.ofOption (Member.lookup segment members))))
          (.ok (Cursor.child _ segment (.ofOption (Member.lookup segment members'))))
        rw [hagree segment hne]
        exact .ok (.first segment _)
      dsimp only
      unfold descend
      rw [List.foldlM_cons, List.foldlM_cons]
      exact hfirst.bind fun c d hcd => (simulation_parallel _ _).descend hcd rest

theorem resolve_agree_ofObject (hagree : Member.AgreeBut k members members')
    (hpath : Path.SkipsAfterClimb k path) :
    Agree Eq (Parallel members members') ((ofObject members).resolve path)
      ((ofObject members').resolve path) := by
  unfold resolve
  cases hroot : afterRoot? path with
  | some rest => exact descendPath_agree hagree (skips_of_afterRoot? hroot hpath)
  | none =>
    cases hparent : afterParent? path with
    | some rest => exact .error rfl
    | none => exact descendPath_agree hagree (skips_of_local hroot hparent hpath)

/-- The path neither starts at the root nor at a parent, or it skips the key once it has climbed. -/
def SkipsIfClimbing (k path : String) : Prop :=
  afterRoot? path = none ∧ afterParent? path = none ∨ Path.SkipsAfterClimb k path

/-- A reference leads to one place from two children if it does from their parents. -/
theorem Parallel.resolve_child {p p' : Cursor} {segment : String} {node : Node}
    (hchild : Parallel members members' (.child p segment node) (.child p' segment node))
    (hparents : ∀ rest, Path.SkipsAfterClimb k rest →
      Agree Eq (Parallel members members') (p.resolve rest) (p'.resolve rest))
    (hagree : Member.AgreeBut k members members') (hpath : SkipsIfClimbing k path) :
    Agree Eq (Parallel members members') (resolve (.child p segment node) path)
      (resolve (.child p' segment node) path) := by
  unfold resolve
  cases hroot : afterRoot? path with
  | some rest =>
    obtain ⟨hnone, -⟩ | hskips := hpath
    · cases hnone.symm.trans hroot
    · obtain ⟨htop, htop'⟩ := hchild.top_eq
      dsimp only
      rw [htop, htop']
      exact descendPath_agree hagree (skips_of_afterRoot? hroot hskips)
  | none =>
    cases hparent : afterParent? path with
    | some rest =>
      obtain ⟨-, hnone⟩ | hskips := hpath
      · cases hnone.symm.trans hparent
      · exact hparents rest (skips_of_afterParent? hparent hskips)
    | none => exact (simulation_parallel members members').descendPath hchild path

/-- Below the objects a reference leads to one place, however far it climbs. -/
theorem Parallel.resolve_agree (hcd : Parallel members members' c d)
    (hagree : Member.AgreeBut k members members') (hpath : SkipsIfClimbing k path) :
    Agree Eq (Parallel members members') (c.resolve path) (d.resolve path) := by
  induction hcd generalizing path with
  | first segment node =>
    exact resolve_child (.first segment node) (fun rest => resolve_agree_ofObject hagree) hagree hpath
  | child hcd segment node ih =>
    exact resolve_child (hcd.child segment node) (fun rest hrest => ih (.inr hrest)) hagree hpath

end Cursor

/-! ## Conditions that skip a key -/

/-- The reference is local, or the key is not where it goes on after its climb. -/
def Reference.Skips (k : String) (r : Reference) : Prop :=
  r.IsLocal ∨ Path.SkipsAfterClimb k r.path

mutual

/-- The condition is made of field clauses that do not start with the key, of connectives and of
negations. -/
inductive Condition.Skips (k : String) : Condition → Prop where
  | clauses {all : List Clause} (h : ∀ clause ∈ all, clause.Skips k) :
      Condition.Skips k (.clauses all)

inductive Clause.Skips (k : String) : Clause → Prop where
  | field {clause : FieldClause} (h : Path.Skips k clause.name) : Clause.Skips k (.field clause)
  | operator {op : Operator} (h : op.Skips k) : Clause.Skips k (.operator op)

inductive Operator.Skips (k : String) : Operator → Prop where
  | branches (connective : Connective) {conditions : List Condition}
      (h : ∀ condition ∈ conditions, condition.Skips k) :
      Operator.Skips k (.branches connective conditions)
  | unbranched (connective : Connective) : Operator.Skips k (.unbranched connective)
  | not {condition : Condition} (h : condition.Skips k) : Operator.Skips k (.not condition)
  | negated {op : Operator} (h : op.Skips k) : Operator.Skips k (.negated op)

end

def Cursor.AtRoots (members members' : List Member) (c d : Cursor) : Prop :=
  c = .ofObject members ∧ d = .ofObject members'

section
variable {k : String} {members members' : List Member}

/-- The test of a field that is not at the key runs below the objects, if it runs. -/
theorem Test.Agrees.atPath_ofObject (hagree : Member.AgreeBut k members members') {path : String}
    (hpath : Path.Skips k path) {t : Test}
    (ht : Test.Agrees Eq (Cursor.Parallel members members') t t) :
    Test.Agrees Eq (Cursor.AtRoots members members') (Test.atPath path t)
      (Test.atPath path t) := by
  rintro c d ⟨rfl, rfl⟩
  have hfollow : Agree Eq (Cursor.Parallel members members')
      ((Cursor.ofObject members).follow path) ((Cursor.ofObject members').follow path) := by
    unfold Cursor.follow
    split
    · exact .error rfl
    · exact Cursor.descendPath_agree hagree hpath
  exact ht.at_step hfollow

theorem Condition.Skips.agrees (hagree : Member.AgreeBut k members members')
    (condition : Condition) : condition.Skips k →
    Reference.Agree Eq (Cursor.Parallel members members') condition.references →
    Test.Agrees Eq (Cursor.AtRoots members members') condition.test condition.test := by
  have hsim := Cursor.simulation_parallel members members'
  refine Condition.induction
    (P := fun condition => condition.Skips k →
      Reference.Agree Eq (Cursor.Parallel members members') condition.references →
      Test.Agrees Eq (Cursor.AtRoots members members') condition.test condition.test)
    (Q := fun clause => clause.Skips k →
      Reference.Agree Eq (Cursor.Parallel members members') clause.references →
      Test.Agrees Eq (Cursor.AtRoots members members') clause.test clause.test)
    (S := fun op => op.Skips k →
      Reference.Agree Eq (Cursor.Parallel members members') op.references →
      Test.Agrees Eq (Cursor.AtRoots members members') op.test op.test)
    ?equals ?clauses ?field ?operator ?branches ?unbranched ?not ?scalar ?isIn ?containment ?hasType
    ?present ?entries ?pattern ?within ?quantified ?negated condition
  case clauses =>
    intro all ih hskips hrefs c d hcd
    rw [Condition.references, Clause.allReferences_eq] at hrefs
    rw [Condition.result_clauses, Condition.result_clauses]
    cases hskips with
    | clauses hall =>
      refine Test.Agrees.all (Test.forall₂_map ?_) c d hcd
      exact List.forall₂_same.mpr fun clause hmem =>
        ih clause hmem (hall clause hmem) (hrefs.of_flatMap hmem)
  case field =>
    intro clause _ hskips hrefs
    rw [Clause.references, FieldClause.references_eq] at hrefs
    rw [Clause.test, FieldClause.test_eq]
    cases hskips with
    | field hpath =>
      exact .atPath_ofObject hagree hpath ((clause.condition.agrees hsim hrefs).ofField hsim _)
  case operator =>
    intro op ih hskips hrefs c d hcd
    rw [Clause.result_operator, Clause.result_operator]
    cases hskips with
    | operator hop => exact ih hop hrefs c d hcd
  case branches =>
    intro connective conditions ih hskips hrefs
    rw [Operator.references, Condition.allReferences_eq] at hrefs
    rw [Operator.test, Condition.tests_eq_map]
    cases hskips with
    | branches _ hconditions =>
      refine .combine connective (Test.forall₂_map ?_)
      exact List.forall₂_same.mpr fun condition hmem =>
        ih condition hmem (hconditions condition hmem) (hrefs.of_flatMap hmem)
  case unbranched => exact fun _ _ _ _ _ _ => .ok rfl
  case not =>
    intro condition ih hskips hrefs
    cases hskips with
    | not hcondition => exact (ih hcondition hrefs).not
  case negated =>
    intro op ih hskips hrefs
    cases hskips with
    | negated hop => exact (ih hop hrefs).not
  -- the rest does not skip the key: it looks at the objects themselves
  all_goals
    intros
    contradiction

end

/-- A value at a key that a condition skips, and that its references skip where they climb, makes no
difference, nor does it make one whether there is a value at all. -/
theorem isMatch_insert [Pattern.Engine] {source : Json} {k : String}
    (h : ∀ condition, Condition.ofJson source = .ok condition →
      condition.Skips k ∧ ∀ r ∈ condition.references, r.Skips k)
    (members : List Member) (x : Json) :
    (isMatch (.object (Member.insert ⟨k, x⟩ members)) source).result =
      (isMatch (.object members) source).result := by
  rw [result_isMatch, result_isMatch]
  cases hread : Condition.ofJson source with
  | error e => rfl
  | ok condition =>
    obtain ⟨hskips, hrefs⟩ := h condition hread
    have hagree : Member.AgreeBut k (Member.insert ⟨k, x⟩ members) members :=
      fun key hne => Member.lookup_insert_of_ne hne members
    refine (Condition.Skips.agrees hagree condition hskips ?_ _ _ ⟨rfl, rfl⟩).eq
    intro r hr c d hcd
    refine hcd.resolve_agree hagree ?_
    obtain hlocal | hclimb := hrefs r hr
    · exact .inl ⟨Cursor.afterRoot?_eq_none hlocal.1, Cursor.afterParent?_eq_none hlocal.2⟩
    · exact .inr hclimb

section
attribute [local instance] Pattern.Engine.plain

/-- A budget of the whole object is looked up from one of its fields; the key `k` is left alone. -/
theorem isMatch_insert_budget :
    (∀ condition, Condition.ofJson (.object [⟨"a", .object [⟨"b", .object [⟨"$lt",
        .object [⟨"$field", .string "../../budget"⟩]⟩]⟩]⟩]) = .ok condition →
      condition.Skips "k" ∧ ∀ r ∈ condition.references, r.Skips "k") ∧
    (isMatch (.object (Member.insert ⟨"k", .ofNat 0⟩
        [⟨"a", .object [⟨"b", .ofNat 1⟩]⟩, ⟨"budget", .ofNat 2⟩]))
      (.object [⟨"a", .object [⟨"b", .object [⟨"$lt",
        .object [⟨"$field", .string "../../budget"⟩]⟩]⟩]⟩])).result =
    (isMatch (.object [⟨"a", .object [⟨"b", .ofNat 1⟩]⟩, ⟨"budget", .ofNat 2⟩])
      (.object [⟨"a", .object [⟨"b", .object [⟨"$lt",
        .object [⟨"$field", .string "../../budget"⟩]⟩]⟩]⟩])).result := by
  have h : ∀ condition, Condition.ofJson (.object [⟨"a", .object [⟨"b", .object [⟨"$lt",
        .object [⟨"$field", .string "../../budget"⟩]⟩]⟩]⟩]) = .ok condition →
      condition.Skips "k" ∧ ∀ r ∈ condition.references, r.Skips "k" := by
    rintro _ ⟨⟩
    refine ⟨.clauses (List.forall_mem_singleton.mpr (.field ?_)),
      List.forall_mem_singleton.mpr (.inr ?_)⟩
    · rintro _ ⟨⟩
      decide
    · rintro _ ⟨⟩
      decide
  exact ⟨h, isMatch_insert h _ _⟩

end

end Sift
