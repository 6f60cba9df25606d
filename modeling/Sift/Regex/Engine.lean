import Sift.Pattern.Engine
import Sift.Regex.Reader

/-!
# The engine of the program

The program compiles patterns with the regular expressions of `Regex`. What conditions and queries mean
is said for any engine; none of it depends on this one.
-/

namespace Sift.Regex

def Modes.ofOptions (options : Pattern.Modes) : Modes :=
  { anyCase := options.anyCase, multiLine := options.multiLine, dotAll := options.dotAll,
    spaced := options.spaced, unicode := true, crlf := false }

/-- The error does not say where the source is malformed. -/
instance : Pattern.Engine where
  compile options source :=
    match ofSource? (.ofOptions options) source with
    | some p => .ok p.isMatch
    | none => .error "<regex syntax error>"

end Sift.Regex
