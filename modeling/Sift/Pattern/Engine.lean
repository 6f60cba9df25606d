/-!
# Engines of patterns

Regular expressions are left to an engine, which reading a pattern takes as a parameter. It compiles a
source under four options. Of a compiled pattern nothing counts but the texts in which it matches; if
the source does not compile, the engine says why.
-/

namespace Sift.Pattern

/-- The options of compiling a source. -/
structure Modes where
  /-- `i` : a letter stands for its case variants too. -/
  anyCase : Bool
  /-- `m` : caret and dollar stand for the start and the end of a line. -/
  multiLine : Bool
  /-- `s` : the dot stands for a line break too. -/
  dotAll : Bool
  /-- `x` : blanks and comments are skipped. -/
  spaced : Bool
  deriving DecidableEq, Repr

/-- No option is asked for. -/
def Modes.initial : Modes := ⟨false, false, false, false⟩

/-- An engine compiles a source to the test whether the pattern matches somewhere in a text, or ends
with the text of an error. -/
class Engine where
  compile : Modes → String → Except String (String → Bool)

end Sift.Pattern
