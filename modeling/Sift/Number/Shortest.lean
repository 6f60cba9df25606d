import Sift.Number.Double

/-!
# The shortest decimal that reads back

`Double.shortest units` is the decimal with the fewest digits among those nearer to the number
than to any other number of the format, and the nearest of these. For each count of digits only
the two neighbours of the exact value on that decimal grid can qualify, so the search tests these
two in whole-number arithmetic.

`Double.text` writes it: positionally while the leading digit stands between the fifth place after
the point and the sixteenth before it, and with a signed exponent elsewhere.
-/

namespace Sift

/-- The decimal `digits * 10 ^ exponent`. -/
structure Decimal where
  digits : Nat
  exponent : Int
  deriving DecidableEq, Repr

namespace Decimal

def ratio (d : Decimal) : Nat × Nat :=
  match d.exponent with
  | .ofNat k => (d.digits * Nat.pow 10 k, 1)
  | .negSucc k => (d.digits, Nat.pow 10 (k + 1))

/-- The same decimal without zeros at the end; `fuel` bounds how many are taken. -/
def trim (fuel : Nat) (d : Decimal) : Decimal :=
  match fuel with
  | 0 => d
  | fuel + 1 => if d.digits % 10 = 0 then trim fuel ⟨d.digits / 10, d.exponent + 1⟩ else d

/-- The number of digits before the point in decimal notation. -/
def length (n : Nat) : Nat :=
  (Nat.toDigits 10 n).length

end Decimal

namespace Double

/-- The exponent of the leading decimal digit: the greatest `e` with `10 ^ e` at most the number. -/
def leadingExponent (units : Nat) : Int :=
  if unitsPerOne ≤ units then (Decimal.length (units / unitsPerOne) : Int) - 1
  else
    let places := Decimal.length (unitsPerOne / units) - 1
    if unitsPerOne ≤ units * Nat.pow 10 places then -(places : Int) else -(places : Int) - 1

/-- Whether the decimal rounds to `units`. The numbers that do form an interval that reaches half
way to either neighbour, its ends included iff the significand is even; below a power of two the
lower neighbour is only half as far. -/
def readsAs (units : Nat) (d : Decimal) : Bool :=
  let step := spacing units
  let low := 4 * units - (if units = Nat.pow 2 52 * step && step != 1 then step else 2 * step)
  let high := 4 * units + 2 * step
  let (num, den) := d.ratio
  let point := 4 * num * unitsPerOne
  if units / step % 2 = 0 then low * den ≤ point && point ≤ high * den
  else low * den < point && point < high * den

/-- The two neighbours of the number on the grid `10 ^ exponent`, and whether the upper one is
strictly nearer. -/
def neighbours (units : Nat) (exponent : Int) : Nat × Bool :=
  let (num, den) := match exponent with
    | .ofNat k => (units, unitsPerOne * Nat.pow 10 k)
    | .negSucc k => (units * Nat.pow 10 (k + 1), unitsPerOne)
  let floor := num / den
  let twice := 2 * (num % den)
  (floor, den < twice || (den = twice && floor % 2 = 1))

def withDigits? (units digits : Nat) : Option Decimal :=
  let exponent := leadingExponent units + 1 - digits
  let (floor, upperNearer) := neighbours units exponent
  let lower : Decimal := ⟨floor, exponent⟩
  let upper : Decimal := ⟨floor + 1, exponent⟩
  match readsAs units lower, readsAs units upper with
  | true, true => some (if upperNearer then upper else lower)
  | true, false => some lower
  | false, true => some upper
  | false, false => none

/-- The shortest decimal that reads back as a number other than zero. Seventeen digits always
suffice. -/
def shortest (units : Nat) : Decimal :=
  let found := (List.range' 1 17).findSome? (withDigits? units)
  (found.getD ⟨0, 0⟩).trim 17

/-- Whether a number whose leading digit has this exponent is written without one. -/
def isPositional (leading : Int) : Bool :=
  -5 ≤ leading && leading < 16

/-- The magnitude in positional notation, with at least one digit after the point. -/
def positional (digits : String) (leading : Int) : String :=
  match leading with
  | .negSucc k => "0." ++ String.ofList (List.replicate k '0') ++ digits
  | .ofNat k =>
    let before := k + 1
    if digits.length ≤ before then
      digits ++ String.ofList (List.replicate (before - digits.length) '0') ++ ".0"
    else
      String.ofList (digits.toList.take before) ++ "." ++ String.ofList (digits.toList.drop before)

/-- The magnitude as one digit, the further ones after a point, and a signed exponent. -/
def scientific (digits : String) (leading : Int) : String :=
  let significand := match digits.toList with
    | d :: e :: rest => String.ofList (d :: '.' :: e :: rest)
    | _ => digits
  let sign := if leading < 0 then "-" else "+"
  significand ++ "e" ++ sign ++ toString leading.natAbs

def magnitudeText (units : Nat) : String :=
  if units = 0 then "0.0"
  else
    let d := shortest units
    let digits := toString d.digits
    let leading := d.exponent + digits.length - 1
    if isPositional leading then positional digits leading else scientific digits leading

/-- The shortest text that reads back, with the sign kept for zero too. -/
def text (x : Double) : String :=
  (if x.negative then "-" else "") ++ magnitudeText x.units

end Double

end Sift
