import Sift.Regex.Unicode.FoldRows

/-!
# Case variants

Two characters are case variants of each other if simple case folding takes them to the same one.
-/

namespace Sift.Regex.Unicode

/-- The character that stands for the case variants of a character. -/
def fold (c : Char) : Char :=
  match foldRows.findSome? (·.image? c.toNat) with
  | some code => Char.ofNat code
  | none => c

/-- All case variants of a character, itself among them. -/
def caseVariants (c : Char) : List Char :=
  let representative := fold c
  representative ::
    (foldRows.filterMap (·.preimage? representative.toNat)).map Char.ofNat

def foldable : List Nat :=
  foldRows.flatMap Text.CaseRow.codes

end Sift.Regex.Unicode
