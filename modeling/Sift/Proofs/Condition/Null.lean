import Sift.Proofs.Condition.References
import Sift.Proofs.Condition.Single
import Sift.Proofs.Confinement
import Sift.Proofs.Cursor.Composition
import Sift.Proofs.Pattern.Plain

/-!
# Null as missing data

Null has no fields, no elements and no text, so a condition that looks into it finds what it would
find in a missing field: paths through null lead to what is absent, and operators that have nothing to
work on do not hold. One operator is different. The conditions on the members of an object need an
object, and null is none to them, though it is one to field clauses and no error to `$indexAsArray`.
`isMatch_null` says that this is all that can go wrong, and `isMatch_null_members` that it does.
-/

namespace Sift

/-! ## Paths of fields -/

mutual

/-- The paths of the field clauses in a condition. The keys of conditions on members are no paths. -/
def Condition.fieldPaths : Condition → List String
  | .equals _ => []
  | .clauses all => Clause.allFieldPaths all

def Condition.allFieldPaths : List Condition → List String
  | [] => []
  | condition :: rest => condition.fieldPaths ++ Condition.allFieldPaths rest

def Clause.fieldPaths : Clause → List String
  | .field clause => clause.name :: clause.nestedPaths
  | .operator op => op.fieldPaths

def Clause.allFieldPaths : List Clause → List String
  | [] => []
  | clause :: rest => clause.fieldPaths ++ Clause.allFieldPaths rest

def FieldClause.nestedPaths : FieldClause → List String
  | ⟨_, _, condition⟩ => condition.fieldPaths

def FieldClause.allNestedPaths : List FieldClause → List String
  | [] => []
  | clause :: rest => clause.nestedPaths ++ FieldClause.allNestedPaths rest

def Operator.fieldPaths : Operator → List String
  | .branches _ conditions => Condition.allFieldPaths conditions
  | .unbranched _ => []
  | .not condition => condition.fieldPaths
  | .scalar _ _ => []
  | .isIn _ => []
  | .containment _ _ => []
  | .hasType _ => []
  | .present _ => []
  | .entries clauses => FieldClause.allNestedPaths clauses
  | .pattern _ => []
  | .within _ condition => condition.fieldPaths
  | .quantified _ condition => condition.fieldPaths
  | .negated op => op.fieldPaths

end

theorem Condition.allFieldPaths_eq (conditions : List Condition) :
    Condition.allFieldPaths conditions = conditions.flatMap Condition.fieldPaths := by
  induction conditions with
  | nil => rfl
  | cons condition rest ih => rw [Condition.allFieldPaths, ih, List.flatMap_cons]

theorem Clause.allFieldPaths_eq (all : List Clause) :
    Clause.allFieldPaths all = all.flatMap Clause.fieldPaths := by
  induction all with
  | nil => rfl
  | cons clause rest ih => rw [Clause.allFieldPaths, ih, List.flatMap_cons]

/-! ## References from null -/

/-- The path of the reference is well formed after at most one `^`, and does not climb to a parent. -/
structure Reference.StaysBelow (r : Reference) : Prop where
  valid : Path.IsValid ((Cursor.afterRoot? r.path).getD r.path)
  not_parent : ¬['.', '.', '/'] <+: r.path.toList

namespace Cursor

def ofNull : Cursor := .root (.value .null)

theorem resolve_ofNull {r : Reference} (h : r.StaysBelow) :
    ∃ d, ofNull.resolve r.path = .ok d ∧ d.node = .absent := by
  have hvalid := h.valid
  unfold resolve
  rw [afterParent?_eq_none h.not_parent]
  cases hafter : afterRoot? r.path with
  | some rest =>
    rw [hafter] at hvalid
    exact descendPath_of_isNullish (c := ofNull) rfl hvalid
  | none =>
    rw [hafter] at hvalid
    exact descendPath_of_isNullish (c := ofNull) rfl hvalid

theorem follow_ofNull {path : String} (hpath : Path.IsValid path) (hroot : ¬['^'] <+: path.toList) :
    ∃ d, ofNull.follow path = .ok d ∧ d.node = .absent :=
  follow_of_isNullish (c := ofNull) rfl hpath hroot

end Cursor

/-! ## Conditions on null -/

mutual

/-- The condition asks for members of the node that it is tested at, itself or through connectives
and negations. -/
inductive Condition.AsksForMembers : Condition → Prop where
  | clauses {all : List Clause} {op : Operator} (hmem : .operator op ∈ all)
      (h : op.AsksForMembers) : Condition.AsksForMembers (.clauses all)

inductive Operator.AsksForMembers : Operator → Prop where
  | entries (clauses : List FieldClause) : Operator.AsksForMembers (.entries clauses)
  | branches (connective : Connective) {conditions : List Condition} {condition : Condition}
      (hmem : condition ∈ conditions) (h : condition.AsksForMembers) :
      Operator.AsksForMembers (.branches connective conditions)
  | not {condition : Condition} (h : condition.AsksForMembers) :
      Operator.AsksForMembers (.not condition)
  | negated {op : Operator} (h : op.AsksForMembers) : Operator.AsksForMembers (.negated op)

end

/-- Null is no object, which matters if members are asked for. -/
def NullFault (asks : Prop) (e : Error) : Prop :=
  asks ∧ e = .notAnObject (.value .null)

/-- At null the test ends with an answer, or it ends with an error because members are asked for. -/
def Test.SettlesNull (asks : Prop) (t : Test) : Prop :=
  (t .ofNull).Confined (fun _ => True) (NullFault asks)

namespace Test.SettlesNull

variable {asks : Prop} {t : Test} {ts : List Test}

theorem mono {asks' : Prop} (ht : t.SettlesNull asks) (h : asks → asks') : t.SettlesNull asks' :=
  Recorded.Confined.mono ht (fun _ _ => trivial) fun _ he => ⟨h he.1, he.2⟩

theorem ofExcept {f : Cursor → Except Error Bool} (h : FailsOnly (NullFault asks) (f .ofNull)) :
    (Test.ofExcept f).SettlesNull asks :=
  Recorded.Confined.ofExcept h

theorem not (ht : t.SettlesNull asks) : t.not.SettlesNull asks :=
  Recorded.Confined.bind ht fun b _ => .pure !b

theorem all (hts : ∀ t ∈ ts, t.SettlesNull asks) : (Test.all ts).SettlesNull asks :=
  Recorded.Confined.allMatch fun t ht _ => hts t ht

theorem combine (connective : Connective) (hts : ∀ t ∈ ts, t.SettlesNull asks) :
    (connective.combine ts).SettlesNull asks := by
  cases connective with
  | and => exact all hts
  | or => exact Recorded.Confined.anyMatch fun t ht _ => hts t ht

/-- A field of null is missing, so its condition is not tested. -/
theorem atPath {path : String} (hpath : Path.IsValid path) (hroot : ¬['^'] <+: path.toList)
    (expected : Option Bool) : (Test.atPath path (Test.ofField expected t)).SettlesNull asks := by
  obtain ⟨d, hd, habsent⟩ := Cursor.follow_ofNull hpath hroot
  refine Recorded.Confined.bind_ok hd ?_
  have hmissing : d.isPresent = false := by rw [Cursor.isPresent, habsent]; rfl
  unfold Test.ofField
  rw [hmissing]
  cases expected with
  | none => exact .pure false
  | some expected => cases expected <;> exact .pure _

theorem thenTest (view : View) : (view.thenTest t).SettlesNull asks := by
  have hnowhere : view.cursor? .ofNull = .ok none := by
    cases view with
    | typed tag => cases tag <;> rfl
    | _ => rfl
  exact Recorded.Confined.bind_ok hnowhere (.pure false)

end Test.SettlesNull

/-! ### Operands -/

section
variable {Q : Error → Prop}

theorem Operand.resolve_ofNull {operand : Operand} (h : ∀ r ∈ operand.references, r.StaysBelow) :
    FailsOnly Q (operand.resolve .ofNull) := by
  cases operand with
  | literal v => exact .ok _
  | reference r =>
    obtain ⟨d, hd, -⟩ := Cursor.resolve_ofNull (h r (List.mem_singleton_self r))
    rw [resolve, hd]
    exact .ok _

theorem ListOperand.resolve_ofNull {operand : ListOperand}
    (h : ∀ r ∈ operand.references, r.StaysBelow) : FailsOnly Q (operand.resolve .ofNull) := by
  cases operand with
  | items operands =>
    exact .mapM fun o ho => Operand.resolve_ofNull fun r hr => h r (List.mem_flatMap.mpr ⟨o, ho, hr⟩)
  | reference r =>
    obtain ⟨d, hd, habsent⟩ := Cursor.resolve_ofNull (h r (List.mem_singleton_self r))
    refine FailsOnly.bind_ok hd ?_
    rw [habsent]
    exact .ok []

theorem ScalarTest.eval_ofNull {operand : Operand} (h : ∀ r ∈ operand.references, r.StaysBelow)
    (test : ScalarTest) : FailsOnly Q (test.eval operand .ofNull) := by
  have hresolve : FailsOnly Q (operand.resolve .ofNull) := Operand.resolve_ofNull h
  cases test with
  | equal => exact hresolve.map _
  | greater => exact hresolve.map _
  | less => exact hresolve.map _
  | equalIgnoringCase => exact .ok _
  | contains => exact .ok _
  | startsWith => exact .ok _
  | endsWith => exact .ok _

end

/-! ### Conditions -/

/-- A condition, with well-formed paths and references that stay below, has an answer at null unless
it asks for members. -/
theorem Condition.settlesNull (condition : Condition) :
    (∀ path ∈ condition.fieldPaths, Path.IsValid path ∧ ¬['^'] <+: path.toList) →
    (∀ r ∈ condition.references, r.StaysBelow) →
    condition.test.SettlesNull condition.AsksForMembers := by
  refine Condition.induction
    (P := fun condition =>
      (∀ path ∈ condition.fieldPaths, Path.IsValid path ∧ ¬['^'] <+: path.toList) →
      (∀ r ∈ condition.references, r.StaysBelow) →
      condition.test.SettlesNull condition.AsksForMembers)
    (Q := fun clause =>
      (∀ path ∈ clause.fieldPaths, Path.IsValid path ∧ ¬['^'] <+: path.toList) →
      (∀ r ∈ clause.references, r.StaysBelow) →
      clause.test.SettlesNull (∃ op : Operator, clause = .operator op ∧ op.AsksForMembers))
    (S := fun op =>
      (∀ path ∈ op.fieldPaths, Path.IsValid path ∧ ¬['^'] <+: path.toList) →
      (∀ r ∈ op.references, r.StaysBelow) → op.test.SettlesNull op.AsksForMembers)
    ?equals ?clauses ?field ?operator ?branches ?unbranched ?not ?scalar ?isIn ?containment ?hasType
    ?present ?entries ?pattern ?within ?quantified ?negated condition
  case equals =>
    intro literal _ _
    exact (Recorded.Confined.note trivial).bind fun _ _ => .pure _
  case clauses =>
    intro all ih hpaths hrefs
    rw [Condition.fieldPaths, Clause.allFieldPaths_eq] at hpaths
    rw [Condition.references, Clause.allReferences_eq] at hrefs
    rw [Condition.test, Clause.tests_eq_map]
    refine (Recorded.Confined.note trivial).bind fun _ _ => ?_
    refine Test.SettlesNull.all (List.forall_mem_map.mpr fun clause hmem => ?_)
    have hclause := ih clause hmem
      (fun path hpath => hpaths path (List.mem_flatMap.mpr ⟨clause, hmem, hpath⟩))
      (fun r hr => hrefs r (List.mem_flatMap.mpr ⟨clause, hmem, hr⟩))
    refine hclause.mono ?_
    rintro ⟨op, rfl, hasks⟩
    exact .clauses hmem hasks
  case field =>
    intro clause _ hpaths _
    obtain ⟨hpath, hroot⟩ := hpaths clause.name List.mem_cons_self
    rw [Clause.test, FieldClause.test_eq]
    exact .atPath hpath hroot clause.expected
  case operator =>
    intro op ih hpaths hrefs
    rw [Clause.test]
    refine ((ih hpaths hrefs).mono fun hasks => ⟨op, rfl, hasks⟩).bind fun result _ => ?_
    exact (Recorded.Confined.note trivial).bind fun _ _ => .pure result
  case branches =>
    intro connective conditions ih hpaths hrefs
    rw [Operator.fieldPaths, Condition.allFieldPaths_eq] at hpaths
    rw [Operator.references, Condition.allReferences_eq] at hrefs
    rw [Operator.test, Condition.tests_eq_map]
    refine .combine connective (List.forall_mem_map.mpr fun condition hmem => ?_)
    have hcondition := ih condition hmem
      (fun path hpath => hpaths path (List.mem_flatMap.mpr ⟨condition, hmem, hpath⟩))
      (fun r hr => hrefs r (List.mem_flatMap.mpr ⟨condition, hmem, hr⟩))
    exact hcondition.mono fun hasks => .branches connective hmem hasks
  case unbranched => exact fun _ _ _ => .pure false
  case not =>
    intro condition ih hpaths hrefs
    exact ((ih hpaths hrefs).mono .not).not
  case scalar => exact fun test operand _ hrefs => .ofExcept (test.eval_ofNull hrefs)
  case isIn =>
    exact fun operand _ hrefs => .ofExcept ((ListOperand.resolve_ofNull hrefs).map _)
  case containment => exact fun _ _ _ _ => .ofExcept (.ok false)
  case hasType => exact fun tag _ _ => .pure (tag.holds _)
  case present => exact fun _ _ _ => .pure true
  case entries =>
    exact fun clauses _ _ _ => .ofExcept (f := fun _ => .error (.notAnObject (.value .null)))
      (.error ⟨.entries clauses, rfl⟩)
  case pattern => exact fun expression _ _ => .pure _
  case within => exact fun view condition _ _ _ => .thenTest view
  case quantified =>
    exact fun quantifier condition _ _ _ => Recorded.Confined.bind_ok rfl (.pure false)
  case negated =>
    intro op ih hpaths hrefs
    exact ((ih hpaths hrefs).mono .negated).not

/-- A condition that is read has an answer for null, if its paths are well formed and its references
stay below; or else it asks for members of null, which is an error. -/
theorem isMatch_null [Pattern.Engine] {source : Json} {condition : Condition}
    (hread : Condition.ofJson source = .ok condition)
    (hpaths : ∀ path ∈ condition.fieldPaths, Path.IsValid path ∧ ¬['^'] <+: path.toList)
    (hrefs : ∀ r ∈ condition.references, r.StaysBelow) :
    (∃ b, (isMatch .null source).result = .ok b) ∨
      (condition.AsksForMembers ∧
        (isMatch .null source).result = .error (.notAnObject (.value .null))) := by
  rw [result_isMatch, hread]
  have hfailed := (condition.settlesNull hpaths hrefs).failed
  change (∃ b, (condition.test .ofNull).result = .ok b) ∨
    (_ ∧ (condition.test .ofNull).result = .error _)
  cases hresult : (condition.test .ofNull).result with
  | ok b => exact .inl ⟨b, rfl⟩
  | error e =>
    obtain ⟨hasks, rfl⟩ := hfailed e hresult
    exact .inr ⟨hasks, rfl⟩

section
attribute [local instance] Pattern.Engine.plain

/-- A reference out of null leads to what is absent, which null is not greater than. -/
theorem isMatch_null_reference :
    Condition.ofJson (.object [⟨"$not", .object [⟨"$gt", .object [⟨"$field", .string "^c"⟩]⟩,
        ⟨"a.b", .ofNat 1⟩]⟩]) =
      .ok (.ofOperator (.not (.clauses [.operator (.scalar .greater (.reference ⟨"^c"⟩)),
        .field ⟨"a.b", none, .equals (.ofNat 1)⟩]))) ∧
    ((∃ b, (isMatch .null (.object [⟨"$not", .object [⟨"$gt",
        .object [⟨"$field", .string "^c"⟩]⟩, ⟨"a.b", .ofNat 1⟩]⟩])).result = .ok b) ∨
      ((Condition.ofOperator (.not (.clauses [.operator (.scalar .greater (.reference ⟨"^c"⟩)),
        .field ⟨"a.b", none, .equals (.ofNat 1)⟩]))).AsksForMembers ∧
        (isMatch .null (.object [⟨"$not", .object [⟨"$gt", .object [⟨"$field", .string "^c"⟩]⟩,
          ⟨"a.b", .ofNat 1⟩]⟩])).result = .error (.notAnObject (.value .null)))) := by
  refine ⟨rfl, isMatch_null rfl ?_ ?_⟩
  · exact List.forall_mem_singleton.mpr ⟨⟨["a", "b"], rfl⟩, by decide⟩
  · exact List.forall_mem_singleton.mpr ⟨⟨["c"], rfl⟩, by decide⟩

/-- Members asked for are an error for null: not every condition has an answer for it. -/
theorem isMatch_null_members :
    ¬∀ (source : Json) (condition : Condition), Condition.ofJson source = .ok condition →
      (∀ path ∈ condition.fieldPaths, Path.IsValid path ∧ ¬['^'] <+: path.toList) →
      (∀ r ∈ condition.references, r.StaysBelow) → ∃ b, (isMatch .null source).result = .ok b := by
  intro hall
  obtain ⟨b, hb⟩ := hall (.object [⟨"$indexEntries", .object [⟨"a", .ofNat 1⟩]⟩]) _ rfl nofun nofun
  have herror : (isMatch .null (.object [⟨"$indexEntries", .object [⟨"a", .ofNat 1⟩]⟩])).result =
      .error (.notAnObject (.value .null)) := rfl
  rw [herror] at hb
  cases hb

end

end Sift
