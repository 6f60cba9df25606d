import Sift.Pattern.Expression
import Sift.Reference

/-!
# Conditions

A condition is a literal, which asks for equality, or a list of clauses, all of which must hold. A
clause is about a field of the current node or applies an operator to it.

Operators come in families, one constructor each. Those of a family differ in a tag only: the test
against an operand (`ScalarTest`), how elements and a list of items compare (`Containment`), the
place that a nested condition looks at (`View`), how many elements must meet a nested condition
(`Quantifier`). Negation is a constructor of its own, so that an operator and its negated sibling
never diverge.
-/

namespace Sift

inductive TypeTag where
  | string
  | number
  | boolean
  | bigInt
  deriving DecidableEq, Repr

namespace TypeTag

def name : TypeTag → String
  | .string => "string"
  | .number => "number"
  | .boolean => "boolean"
  | .bigInt => "bigint"

def ofName (name : String) : Except Error TypeTag :=
  match name with
  | "string" => .ok .string
  | "number" => .ok .number
  | "boolean" => .ok .boolean
  | "bigint" => .ok .bigInt
  | _ => .error (.invalidOperand (.unknownType name))

/-- Whether values of a kind are of the type. -/
def admits : TypeTag → Kind → Bool
  | .string, .string => true
  | .number, .number => true
  | .boolean, .boolean => true
  | .bigInt, .bigInt => true
  | _, _ => false

end TypeTag

/-- How the results of several conditions on one node are combined. -/
inductive Connective where
  | and
  | or
  deriving DecidableEq, Repr

inductive ScalarTest where
  | equal
  | greater
  | less
  | equalIgnoringCase
  | contains
  | startsWith
  | endsWith
  deriving DecidableEq, Repr

/-- How the elements of the current node compare with the items of a list. -/
inductive Containment where
  /-- Every item equals an element. -/
  | all
  /-- Items and elements are the same, counted with multiplicity. -/
  | same
  /-- Some item equals an element. -/
  | any
  deriving DecidableEq, Repr

/-- How many elements must meet a condition. -/
inductive Quantifier where
  | all
  | any
  | one
  deriving DecidableEq, Repr

/-- The place that a nested condition looks at, seen from the current node. -/
inductive View where
  /-- The node itself, if it is of a type. -/
  | typed (tag : TypeTag)
  /-- The object, as the sequence of its members. -/
  | indexed
  /-- The key of an entry. -/
  | key
  /-- The value of an entry. -/
  | value
  /-- The character of a string at an index. -/
  | character (i : Nat)
  /-- The number of characters of a string. -/
  | length
  | element (i : Nat)
  | size
  deriving DecidableEq, Repr

mutual

/-- What is asked of a node. -/
inductive Condition where
  /-- It equals a literal. -/
  | equals (literal : Json)
  /-- All clauses hold. -/
  | clauses (all : List Clause)

inductive Clause where
  | field (clause : FieldClause)
  | operator (op : Operator)

/-- A condition on a field. If the condition has an expectation about the presence of the field,
it is settled before anything else. -/
structure FieldClause where
  name : String
  expected : Option Bool
  condition : Condition

inductive Operator where
  | branches (connective : Connective) (conditions : List Condition)
  /-- A connective whose operand was no array; it never holds. -/
  | unbranched (connective : Connective)
  | not (condition : Condition)
  | scalar (test : ScalarTest) (operand : Operand)
  | isIn (operand : ListOperand)
  | containment (test : Containment) (operand : ListOperand)
  | hasType (tag : TypeTag)
  /-- An expectation that the clause of the field settles; here it always holds. -/
  | present (expected : Bool)
  /-- Conditions on the members of an object, by their plain keys. -/
  | entries (clauses : List FieldClause)
  | pattern (expression : Pattern.Expression)
  | within (view : View) (condition : Condition)
  | quantified (quantifier : Quantifier) (condition : Condition)
  | negated (op : Operator)

end

/-! ## Keys of operators -/

/-- What the key of an operator asks of its operand. -/
inductive OperandForm where
  /-- Conditions on the same node. -/
  | branches (connective : Connective)
  | not
  | scalar (test : ScalarTest)
  | isIn
  | containment (test : Containment)
  /-- A type, alone or with a condition. -/
  | type
  | present
  | entries
  | pattern
  | within (view : View)
  /-- An index of a character, and a condition on it. -/
  | character
  /-- An index of an element, and a condition on it. -/
  | element
  | quantified (quantifier : Quantifier)
  deriving DecidableEq, Repr

/-- What the key of an operator means: the form of its operand, and whether it is the negation of
its sibling. -/
structure Keyword where
  form : OperandForm
  negated : Bool
  deriving DecidableEq, Repr

namespace Keyword

def ofKey? : String → Option Keyword
  | "$and" => some ⟨.branches .and, false⟩
  | "$or" => some ⟨.branches .or, false⟩
  | "$nor" => some ⟨.branches .or, true⟩
  | "$not" => some ⟨.not, false⟩
  | "$eq" => some ⟨.scalar .equal, false⟩
  | "$ne" => some ⟨.scalar .equal, true⟩
  | "$gt" => some ⟨.scalar .greater, false⟩
  | "$lte" => some ⟨.scalar .greater, true⟩
  | "$lt" => some ⟨.scalar .less, false⟩
  | "$gte" => some ⟨.scalar .less, true⟩
  | "$eqi" => some ⟨.scalar .equalIgnoringCase, false⟩
  | "$contains" => some ⟨.scalar .contains, false⟩
  | "$startsWith" => some ⟨.scalar .startsWith, false⟩
  | "$endsWith" => some ⟨.scalar .endsWith, false⟩
  | "$in" => some ⟨.isIn, false⟩
  | "$nin" => some ⟨.isIn, true⟩
  | "$containsAll" => some ⟨.containment .all, false⟩
  | "$containsSame" => some ⟨.containment .same, false⟩
  | "$containsSome" => some ⟨.containment .any, false⟩
  | "$containsNone" => some ⟨.containment .any, true⟩
  | "$type" => some ⟨.type, false⟩
  | "$exists" => some ⟨.present, false⟩
  | "$indexEntries" => some ⟨.entries, false⟩
  | "$regexp" => some ⟨.pattern, false⟩
  | "$indexAsArray" => some ⟨.within .indexed, false⟩
  | "$key" => some ⟨.within .key, false⟩
  | "$value" => some ⟨.within .value, false⟩
  | "$length" => some ⟨.within .length, false⟩
  | "$size" => some ⟨.within .size, false⟩
  | "$charAt" => some ⟨.character, false⟩
  | "$elementAt" => some ⟨.element, false⟩
  | "$allMatch" => some ⟨.quantified .all, false⟩
  | "$someMatch" => some ⟨.quantified .any, false⟩
  | "$singleMatch" => some ⟨.quantified .one, false⟩
  | "$noneMatch" => some ⟨.quantified .any, true⟩
  | _ => none

end Keyword

def Connective.name : Connective → String
  | .and => "$and"
  | .or => "$or"

def ScalarTest.name : ScalarTest → String
  | .equal => "$eq"
  | .greater => "$gt"
  | .less => "$lt"
  | .equalIgnoringCase => "$eqi"
  | .contains => "$contains"
  | .startsWith => "$startsWith"
  | .endsWith => "$endsWith"

def Containment.name : Containment → String
  | .all => "$containsAll"
  | .same => "$containsSame"
  | .any => "$containsSome"

def Quantifier.name : Quantifier → String
  | .all => "$allMatch"
  | .any => "$someMatch"
  | .one => "$singleMatch"

def View.name : View → String
  | .typed _ => "$type"
  | .indexed => "$indexAsArray"
  | .key => "$key"
  | .value => "$value"
  | .character _ => "$charAt"
  | .length => "$length"
  | .element _ => "$elementAt"
  | .size => "$size"

/-- The key of the negation of an operator: its sibling's, or plain negation. -/
def Operator.negatedName : Operator → String
  | .scalar .equal _ => "$ne"
  | .scalar .less _ => "$gte"
  | .scalar .greater _ => "$lte"
  | .isIn _ => "$nin"
  | .branches .or _ => "$nor"
  | .unbranched .or => "$nor"
  | .quantified .any _ => "$noneMatch"
  | .containment .any _ => "$containsNone"
  | _ => "$not"

def Operator.name : Operator → String
  | .branches connective _ => connective.name
  | .unbranched connective => connective.name
  | .not _ => "$not"
  | .scalar test _ => test.name
  | .isIn _ => "$in"
  | .containment test _ => test.name
  | .hasType _ => "$type"
  | .present _ => "$exists"
  | .entries _ => "$indexEntries"
  | .pattern _ => "$regexp"
  | .within view _ => view.name
  | .quantified quantifier _ => quantifier.name
  | .negated op => op.negatedName

namespace Condition

def ofOperator (op : Operator) : Condition :=
  .clauses [.operator op]

def ofField (path : String) (condition : Condition) : Condition :=
  .clauses [.field ⟨path, none, condition⟩]

/-- The condition that a string matches a pattern. -/
def ofExpression (expression : Pattern.Expression) : Condition :=
  ofOperator (.pattern expression)

end Condition

end Sift
