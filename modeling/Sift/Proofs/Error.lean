import Sift.Error

/-!
# Errors by their origin

An error comes up where a condition is read (`Error.OfReading`), where it is tested (`Error.OfTest`),
or where a value is projected (`Error.OfProjection`), and no error is of two of these kinds. No test
makes a step that is illegal for lack of data: two of the faults of navigation are missing from
`Error.OfTest`, the step from an absent node to one that is derived from it, and the step to an
element of what has none.
-/

namespace Sift.Error

/-- Something is wrong with a condition, whatever value it is meant for. -/
inductive OfReading : Error → Prop where
  | unknownOperator (key : String) : OfReading (.unknownOperator key)
  | invalidOperand (fault : OperandFault) : OfReading (.invalidOperand fault)

/-- Something goes wrong where a condition is tested. -/
inductive OfTest : Error → Prop where
  | malformedPath (e : Path.Error) : OfTest (.malformedPath e)
  | noFields (node : Node) (path : String) : OfTest (.navigation (.noFields node) path)
  | notRelative (name path : String) : OfTest (.navigation (.notRelative name) path)
  | noParent (path : String) : OfTest (.navigation .noParent path)
  | notIterable (fault : IterationFault) : OfTest (.notIterable fault)
  | notAnObject (node : Node) : OfTest (.notAnObject node)

/-- Something goes wrong where a value is projected, beside the conditions that stand in the query. -/
inductive OfProjection : Error → Prop where
  | duplicateKey (key : String) : OfProjection (.duplicateKey key)
  | unknownQuery (value query : Json) : OfProjection (.unknownQuery value query)
  | invalidQuery (fault : QueryFault) : OfProjection (.invalidQuery fault)

theorem OfReading.not_ofTest {e : Error} (h : OfReading e) : ¬e.OfTest := by
  intro htest
  cases h <;> cases htest

theorem OfReading.not_ofProjection {e : Error} (h : OfReading e) : ¬e.OfProjection := by
  intro hprojection
  cases h <;> cases hprojection

theorem OfTest.not_ofProjection {e : Error} (h : OfTest e) : ¬e.OfProjection := by
  intro hprojection
  cases h <;> cases hprojection

/-- The error of a step that is illegal for lack of data. -/
def IsMissingData : Error → Prop
  | .navigation .derivedFromAbsent _ => True
  | .navigation (.noElements _) _ => True
  | _ => False

theorem OfReading.not_isMissingData {e : Error} (h : OfReading e) : ¬e.IsMissingData := by
  cases h <;> exact id

theorem OfTest.not_isMissingData {e : Error} (h : OfTest e) : ¬e.IsMissingData := by
  cases h <;> exact id

end Sift.Error
