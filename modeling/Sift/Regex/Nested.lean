/-!
# Depth of sources

How deep the parts of a pattern's source are nested. A group, a repetition, brackets and an operator
in brackets are one level deeper than what they hold, and so is a list of several parts, one after
the other or as alternatives. Sources that are nested deeper than `depthLimit` are refused.
-/

namespace Sift.Regex

/-- What a part of a source stands for, and how deep the part is nested. -/
structure Nested (α : Type) where
  value : α
  depth : Nat

def Nested.leaf {α : Type} (value : α) : Nested α :=
  ⟨value, 0⟩

def listDepth : List Nat → Nat
  | [] => 0
  | [depth] => depth
  | depths => depths.foldl max 0 + 1

def depthLimit : Nat := 250

end Sift.Regex
