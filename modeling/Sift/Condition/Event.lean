import Sift.Cursor
import Sift.Recorded

/-!
# The record of an evaluation

While a condition is tested, a record is kept of where the evaluation went and what the operators
answered. A test that fails keeps the record up to its failure.
-/

namespace Sift

/-- Something that happened while a condition was tested. -/
inductive Event where
  /-- A condition began to be tested at a cursor. -/
  | entered (cursor : Cursor)
  /-- An operator answered at a cursor. -/
  | answered (operator : String) (cursor : Cursor) (result : Bool)

/-- An evaluation: its record, and its value or error. -/
abbrev Evaluation := Recorded Event Error

/-- An answer of an operator, by its key, with the node and the path of the cursor in words. -/
structure Answer where
  operator : String
  value : String
  path : String
  result : Bool
  deriving DecidableEq, Repr

def Event.answer? : Event → Option Answer
  | .entered _ => none
  | .answered operator cursor result => some ⟨operator, cursor.node.text, cursor.pathText, result⟩

/-- The answers on a record, in the order in which they were given. -/
def answers (log : List Event) : List Answer :=
  log.filterMap Event.answer?

end Sift
