/-!
# Rows of case mappings

A row takes every `step`-th code point from `first` to `last` to one at a fixed distance. Runs of
letters in alphabetical order and runs of pairs are each one row.
-/

namespace Sift.Text

/-- A run of code points that are mapped by one distance: `first` goes to `target`. -/
structure CaseRow where
  first : Nat
  last : Nat
  step : Nat
  target : Nat

namespace CaseRow

/-- The code points that the row covers and those that it takes them to. -/
def codes (row : CaseRow) : List Nat :=
  let steps := List.range ((row.last - row.first) / row.step + 1)
  steps.map (fun i => row.first + i * row.step) ++ steps.map (fun i => row.target + i * row.step)

def image? (row : CaseRow) (code : Nat) : Option Nat :=
  if row.first ≤ code && code ≤ row.last && (code - row.first) % row.step == 0 then
    some (row.target + (code - row.first))
  else none

def preimage? (row : CaseRow) (code : Nat) : Option Nat :=
  let source := code - row.target + row.first
  if row.target ≤ code && source ≤ row.last && (source - row.first) % row.step == 0 then
    some source
  else none

end CaseRow

end Sift.Text
