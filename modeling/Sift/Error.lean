import Sift.Node
import Sift.Path.Error

/-!
# Errors

Why an evaluation fails. Each error is a cause with the data it concerns; `Error.message` puts it
into words. Data that are merely missing are never an error.
-/

namespace Sift

/-- An illegal step of a cursor. -/
inductive NavigationFault where
  /-- A field key is neither a string nor an integer. -/
  | unsupportedKey (key : Json)
  | noFields (node : Node)
  /-- A relative path starts at the root or at a parent. -/
  | notRelative (path : String)
  | noElements (node : Node)
  | derivedFromAbsent
  | noParent

def NavigationFault.message : NavigationFault → String
  | .unsupportedKey key => "unsupported key kind: " ++ key.text
  | .noFields node => "cannot derive from a non-object context: " ++ node.text
  | .notRelative path => "invalid field path: " ++ path
  | .noElements node => "expected current to be array, but found: " ++ node.text
  | .derivedFromAbsent => "cannot derive from a context of a field which does not exist"
  | .noParent => "cannot get parent of root context"

/-- An operand that does not suit its operator. -/
inductive OperandFault where
  /-- The path of a reference is not a string, or is empty. -/
  | reference (found : Json)
  /-- The operand of `$exists` is not a truth value. -/
  | notBoolean (found : Json)
  /-- The operand of a list operator is neither an array nor a reference. -/
  | notList (operator : String) (found : Json)
  /-- The operand is not a pair of an index and a condition. -/
  | notIndexed (operator : String) (found : Json)
  | badIndex (operator : String) (found : Json)
  /-- The operand of `$type` is an array, but no pair of a type and a condition. -/
  | notTypePair (found : Json)
  /-- The operand of `$type` is neither a string nor an array. -/
  | notTypeName (found : Json)
  | unknownType (name : String)
  /-- The operand of `$indexEntries` is not an object. -/
  | notObject (found : Json)
  /-- The operand of `$regexp` is not a source between slashes with flags. -/
  | notPattern (found : Json)
  | unknownFlag (flag : Char)
  /-- The source of a pattern does not compile, for the reason that the text gives. -/
  | malformedPattern (text : String)

def OperandFault.operator : OperandFault → String
  | .reference _ => "$field"
  | .notBoolean _ => "$exists"
  | .notList operator _ => operator
  | .notIndexed operator _ => operator
  | .badIndex operator _ => operator
  | .notTypePair _ => "$type"
  | .notTypeName _ => "$type"
  | .unknownType _ => "$type"
  | .notObject _ => "$indexEntries"
  | .notPattern _ => "$regexp"
  | .unknownFlag _ => "$regexp"
  | .malformedPattern _ => "$regexp"

def OperandFault.message : OperandFault → String
  | .reference found => "invalid field path: " ++ found.text
  | .notBoolean found => "expected a boolean, found: " ++ found.text
  | .notList _ found => "expected an array or a field reference, found: " ++ found.text
  | .notIndexed _ found => "expected [index, condition], found: " ++ found.text
  | .badIndex _ found => "invalid index: " ++ found.text
  | .notTypePair found => "expected [type, condition], found: " ++ found.text
  | .notTypeName found => "expected a type name, found: " ++ found.text
  | .unknownType name => "unknown type: " ++ name
  | .notObject found => "expected an object, found: " ++ found.text
  | .notPattern found => "expected a /source/flags string, found: " ++ found.text
  | .unknownFlag flag => "unsupported flag: " ++ String.singleton flag
  | .malformedPattern text => text

/-- A target that cannot be stepped through. -/
inductive IterationFault where
  /-- The target of an element operator. -/
  | noSequence (node : Node)
  /-- The target of a list reference. -/
  | noArray (node : Node)
  /-- The target of `$indexAsArray`. -/
  | noObject (node : Node)

def IterationFault.message : IterationFault → String
  | .noSequence node => node.text
  | .noArray node => "expected array, but found: " ++ node.text
  | .noObject node => "cannot index a non-object: " ++ node.text

/-- A query object whose keys do not make sense together. -/
inductive QueryFault where
  | asArrayNotBoolean (found : Json)
  /-- An unknown key starts like a known one. -/
  | unknownKey (key : String)
  /-- Fields stand beside keys for elements or entries. -/
  | mixed
  /-- `$asArray` stands without a key for entries. -/
  | asArrayAlone

def QueryFault.message : QueryFault → String
  | .asArrayNotBoolean found => "$asArray must be a boolean, found: " ++ found.text
  | .unknownKey key => "unknown query key: " ++ key
  | .mixed =>
    "field subqueries cannot be combined with $filter, $elementQuery or $indexedQuery"
  | .asArrayAlone => "$asArray requires $filter or $indexedQuery"

inductive Error where
  | malformedPath (e : Path.Error)
  /-- A step is illegal for the cursor at `path`. -/
  | navigation (fault : NavigationFault) (path : String)
  | unknownOperator (key : String)
  | invalidOperand (fault : OperandFault)
  | notIterable (fault : IterationFault)
  /-- A field clause meets a node without fields. -/
  | notAnObject (node : Node)
  /-- A key comes up twice where an object is assembled. -/
  | duplicateKey (key : String)
  /-- A query does not apply to a value. -/
  | unknownQuery (value query : Json)
  | invalidQuery (fault : QueryFault)

def Error.message : Error → String
  | .malformedPath e => e.message
  | .navigation fault path => fault.message ++ " (at [" ++ path ++ "])"
  | .unknownOperator key => "unknown operator: " ++ key
  | .invalidOperand fault => "invalid operand for " ++ fault.operator ++ ": " ++ fault.message
  | .notIterable fault => "non-iterable target: " ++ fault.message
  | .notAnObject node =>
    "cannot apply sub-condition on non-object. Current value: " ++ node.text
  | .duplicateKey key => "key already exists in index: " ++ key
  | .unknownQuery value query =>
    "for value " ++ value.text ++ " given unknown query: " ++ query.text
  | .invalidQuery fault => "invalid query: " ++ fault.message

end Sift
