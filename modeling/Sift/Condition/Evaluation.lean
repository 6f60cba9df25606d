import Sift.Condition.Event
import Sift.Condition.Reader
import Sift.Condition.Tests
import Sift.Sequence.Basic

/-!
# Testing conditions

`Condition.test` is the meaning of a condition: a test of the node at a cursor, with the record of
its evaluation. The clauses of a condition are tested in their order, up to the first one that does
not hold. An operator notes its answer after those of the conditions nested in it, and the operator
under a negation notes none of its own.

`isMatch` tests a value against a condition that is given as a value itself.
-/

namespace Sift

/-- A test of the node at a cursor. -/
abbrev Test := Cursor → Evaluation Bool

def Test.ofExcept (f : Cursor → Except Error Bool) : Test :=
  fun c => Recorded.ofExcept (f c)

def Test.fail (e : Error) : Evaluation Bool :=
  Recorded.ofExcept (.error e)

def Test.all (tests : List Test) : Test :=
  fun c => Sequence.allMatch (fun test _ => test c) tests

def Test.any (tests : List Test) : Test :=
  fun c => Sequence.anyMatch (fun test _ => test c) tests

def Test.not (test : Test) : Test :=
  fun c => do
    let result ← test c
    pure (!result)

/-- The tests of several conditions on one node. -/
def Connective.combine : Connective → List Test → Test
  | .and => Test.all
  | .or => Test.any

/-- A test of elements, for as many as a quantifier says. -/
def Quantifier.combine {α : Type} (test : α → Nat → Evaluation Bool) (items : List α) :
    Quantifier → Evaluation Bool
  | .all => Sequence.allMatch test items
  | .any => Sequence.anyMatch test items
  | .one => Sequence.singleMatch test items

/-- A test of the elements of the current node. Without a target it does not hold. -/
def Quantifier.over (quantifier : Quantifier) (test : Test) : Test :=
  fun c => do
    let target ← Recorded.ofExcept c.node.target
    match target with
    | none => pure false
    | some target =>
      quantifier.combine (fun step _ => do
        let element ← Recorded.ofExcept (c.stepTo step)
        test element) target.steps

/-- A test at the place of a view. Without such a place it does not hold. -/
def View.thenTest (view : View) (test : Test) : Test :=
  fun c => do
    let place ← Recorded.ofExcept (view.cursor? c)
    match place with
    | none => pure false
    | some place => test place

/-- The test of a field, at its cursor. An expectation that the field is missing, or one that is
not met, settles it; a missing field passes nothing else. -/
def Test.ofField (expected : Option Bool) (test : Test) : Test :=
  fun c =>
    match expected, c.isPresent with
    | some expected, present =>
      if expected && present then test c else pure (expected == present)
    | none, true => test c
    | none, false => pure false

def Test.atPath (path : String) (test : Test) : Test :=
  fun c =>
    if c.node.acceptsFields then do
      let field ← Recorded.ofExcept (c.follow path)
      test field
    else Test.fail (.notAnObject c.node)

/-- The test of a field at its plain name. -/
def Test.atName (name : String) (test : Test) : Test :=
  fun c => do
    let field ← Recorded.ofExcept (c.field name)
    test field

/-- The tests of members, if the current node is an object. -/
def Test.ofMembers (tests : List Test) : Test :=
  fun c =>
    match c.node with
    | .value (.object _) => Test.all tests c
    | node => Test.fail (.notAnObject node)

mutual

/-- The meaning of a condition. -/
def Condition.test : Condition → Test
  | .equals literal => fun c => do
    Recorded.note (.entered c)
    pure (c.node.equal (.value literal))
  | .clauses all => fun c => do
    Recorded.note (.entered c)
    Test.all (Clause.tests all) c

def Condition.tests : List Condition → List Test
  | [] => []
  | condition :: rest => condition.test :: Condition.tests rest

def Clause.test : Clause → Test
  | .field clause => Test.atPath clause.name (FieldClause.test clause)
  | .operator op => fun c => do
    let result ← op.test c
    Recorded.note (.answered op.name c result)
    pure result

def Clause.tests : List Clause → List Test
  | [] => []
  | clause :: rest => clause.test :: Clause.tests rest

/-- The meaning of a field clause, at the cursor of the field. -/
def FieldClause.test : FieldClause → Test
  | ⟨_, expected, condition⟩ => Test.ofField expected condition.test

/-- The meaning of field clauses on the members of an object, one by one. -/
def FieldClause.memberTests : List FieldClause → List Test
  | [] => []
  | clause :: rest =>
    Test.atName clause.name clause.test :: FieldClause.memberTests rest

def Operator.test : Operator → Test
  | .branches connective conditions => connective.combine (Condition.tests conditions)
  | .unbranched _ => fun _ => pure false
  | .not condition => condition.test.not
  | .scalar test operand => Test.ofExcept fun c => test.eval operand c
  | .isIn operand => Test.ofExcept fun c => operand.offers c
  | .containment test operand => Test.ofExcept fun c => test.eval operand c
  | .hasType tag => fun c => pure (tag.holds c.node)
  | .present _ => fun _ => pure true
  | .entries clauses => Test.ofMembers (FieldClause.memberTests clauses)
  | .pattern expression => fun c => pure (c.node.string?.any fun s => expression.isMatch s)
  | .within view condition => view.thenTest condition.test
  | .quantified quantifier condition => quantifier.over condition.test
  | .negated op => op.test.not

end

namespace Condition

def matchesValue (condition : Condition) (v : Json) : Evaluation Bool :=
  condition.test (.root (.value v))

/-- Test a member, as an entry. -/
def matchesEntry (condition : Condition) (m : Member) : Evaluation Bool :=
  condition.test (.root (.entry m))

/-- A condition beside the value that it was read from. Read once, it tests any number of values. -/
structure Compiled where
  source : Json
  condition : Condition

namespace Compiled

def ofJson [Pattern.Engine] (source : Json) : Except Error Compiled :=
  (Condition.ofJson source).map fun condition => ⟨source, condition⟩

def matchesValue (compiled : Compiled) (v : Json) : Evaluation Bool :=
  compiled.condition.matchesValue v

end Compiled

end Condition

def isMatch [Pattern.Engine] (v condition : Json) : Evaluation Bool := do
  let condition ← Recorded.ofExcept (Condition.ofJson condition)
  condition.matchesValue v

end Sift
