/-!
# Malformed paths

What can be wrong with the text of a field path, with the position of the offending character.
-/

namespace Sift.Path

/-- What is wrong with the text of a path. -/
inductive Fault where
  | empty
  /-- A quoted segment goes on after its closing quote. -/
  | afterQuote
  /-- A quote stands inside a bare segment. -/
  | strayQuote (quote : Char)
  /-- A backslash stands outside quotes. -/
  | strayEscape
  /-- A backslash escapes nothing, or a character that needs no escape. -/
  | badEscape (found : Option Char)
  | unclosedQuote
  | trailingDot
  | emptySegment
  deriving DecidableEq, Repr

def Fault.message : Fault → String
  | .empty => "empty path"
  | .afterQuote => "character(s) after closing quote"
  | .strayQuote quote =>
    "unquoted/unescaped " ++ String.singleton quote ++ " char (or char before opening quote)"
  | .strayEscape => "escape character found outside quotes"
  | .badEscape found =>
    "only ', \" and \\ chars can be escaped, found: \\" ++ String.ofList found.toList
  | .unclosedQuote => "unclosed quote"
  | .trailingDot => "cannot end with a dot"
  | .emptySegment => "zero length name"

/-- A fault, where it is and in which text. Positions count characters; an empty text is refused
at position `-1`. -/
structure Error where
  fault : Fault
  position : Int
  path : String
  deriving DecidableEq, Repr

def Error.message (e : Error) : String :=
  "invalid path: " ++ e.fault.message ++ "\n\tat position " ++ toString e.position ++ " of: " ++
    e.path

end Sift.Path
