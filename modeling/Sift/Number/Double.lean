/-!
# Finite binary64 numbers

A `Double` is a sign and a magnitude counted in units of `2 ^ -1074`, the least positive number of
the format. Every finite binary64 number is a whole count of them, so the order of numbers is the
order of integers (`Double.value`) and no rounding hides in a comparison. The two zeros differ in
sign only.

* `roundUnits num den` : the count with at most 53 significant bits nearest to `num / den`, a tie
  going to the even significand; the one place where precision is lost.
* `Double.ofInt` : the number nearest to an integer.
* `Double.ofDecimal?` : a decimal significand scaled by a power of ten.
-/

namespace Sift

/-- A finite binary64 number: its sign and its magnitude in units of `2 ^ -1074`. -/
structure Double where
  negative : Bool
  units : Nat
  deriving DecidableEq, Repr, Inhabited

namespace Double

/-- The number one counts `2 ^ 1074` units. -/
def unitsPerOne : Nat := Nat.pow 2 1074

/-- Counts from here on, `2 ^ 1024` and up, lie beyond the largest finite number. -/
def unitsLimit : Nat := Nat.pow 2 2098

/-- The integer nearest to `num / den`; a half goes to the even neighbour. -/
def roundDiv (num den : Nat) : Nat :=
  let floor := num / den
  let twice := 2 * (num % den)
  if twice < den then floor
  else if den < twice then floor + 1
  else if floor % 2 = 0 then floor else floor + 1

/-- The distance between neighbouring counts of the format around `units`: counts have at most
53 significant bits. -/
def spacing (units : Nat) : Nat :=
  Nat.pow 2 (units.log2 - 52)

/-- The count of the format nearest to `num / den`; a tie goes to the even significand. -/
def roundUnits (num den : Nat) : Nat :=
  let step := spacing (num / den)
  roundDiv num (den * step) * step

/-- The signed count of units: the exact value, scaled by `2 ^ 1074`. -/
def value (x : Double) : Int :=
  if x.negative then -(x.units : Int) else x.units

def ofInt (n : Int) : Double :=
  ⟨decide (n < 0), roundUnits (n.natAbs * unitsPerOne) 1⟩

/-! ## Decimal scaling

A significand is rounded first and then multiplied or divided by rounded powers of ten, so that
each step rounds once. The result can miss the nearest number by a unit or two in the last place;
this is the arithmetic that number literals are defined by. -/

/-- The largest power of ten that the format holds is `10 ^ 308`. -/
def maxPower : Nat := 308

def powerOfTen (k : Nat) : Nat :=
  roundUnits (Nat.pow 10 k * unitsPerOne) 1

/-- The product with `10 ^ k`, or `none` beyond the largest finite number. -/
def scaleUp? (units k : Nat) : Option Nat :=
  if units = 0 then some 0
  else if maxPower < k then none
  else
    let scaled := roundUnits (units * powerOfTen k) unitsPerOne
    if scaled < unitsLimit then some scaled else none

/-- The quotient by `10 ^ k`, in steps of at most `10 ^ 308`. -/
def scaleDown (units k : Nat) : Nat :=
  if units = 0 then 0
  else if maxPower < k then
    scaleDown (roundUnits (units * unitsPerOne) (powerOfTen maxPower)) (k - maxPower)
  else roundUnits (units * unitsPerOne) (powerOfTen k)
termination_by k
decreasing_by simp only [maxPower] at *; omega

/-- The number that `significand * 10 ^ exponent` reads as, or `none` if it is too large. -/
def ofDecimal? (negative : Bool) (significand : Nat) (exponent : Int) : Option Double :=
  let start := roundUnits (significand * unitsPerOne) 1
  match exponent with
  | .ofNat k => (scaleUp? start k).map (Double.mk negative)
  | .negSucc k => some ⟨negative, scaleDown start (k + 1)⟩

end Double

end Sift
