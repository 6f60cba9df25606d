import Sift.Condition.Tests
import Sift.Pattern.Engine

/-!
# Plain sources

An engine for the sources in which no character has a meaning of its own: letters, digits and slashes of
ASCII. Such a source matches where it occurs. Runs on fixed inputs are made with this engine.
-/

namespace Sift.Pattern

/-- A source with other characters, or one to be matched in any case, is refused. -/
@[reducible]
def Engine.plain : Engine where
  compile modes source :=
    if source.toList.all (fun c => c.isAlphanum || c == '/') && !modes.anyCase then
      .ok fun text => occursIn source.toList text.toList
    else .error "not plain"

end Sift.Pattern
