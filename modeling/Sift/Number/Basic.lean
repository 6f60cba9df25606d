import Sift.Number.Shortest

/-!
# Numbers

A number is an exact integer or a binary64 one, as its literal was written. Two integers are
compared exactly; as soon as one side is binary64, both are compared as such, so an integer beyond
`2 ^ 53` may be rounded first (`Number.compare`).

`Number.ofLiteral?` gives the number of a literal. The digits of a literal are gathered as long as
they stay below `2 ^ 64`; further ones only scale (`gather`).
-/

namespace Sift

/-- An integer, exact, or a finite binary64 number. -/
inductive Number where
  | int (n : Int)
  | float (x : Double)
  deriving DecidableEq, Repr, Inhabited

namespace Number

/-- The binary64 number that stands for a number in mixed comparisons. -/
def toDouble : Number → Double
  | .int n => .ofInt n
  | .float x => x

/-- The order of two numbers: exact between integers, of binary64 values otherwise. -/
def compare : Number → Number → Ordering
  | .int m, .int n => Ord.compare m n
  | a, b => Ord.compare a.toDouble.value b.toDouble.value

/-- The number as a position or count, if it is a natural one written as an integer. -/
def toNat? : Number → Option Nat
  | .int n => n.toNat?
  | .float _ => none

/-- Decimal text: the digits of an integer, the shortest text of a binary64 number. -/
def text : Number → String
  | .int n => toString n
  | .float x => x.text

/-! ## Literals -/

/-- Append digits to a significand as long as it stays below `2 ^ 64`; returns it and the number
of digits left over. -/
def gather (significand : Nat) : List Nat → Nat × Nat
  | [] => (significand, 0)
  | d :: ds =>
    if significand * 10 + d < Nat.pow 2 64 then gather (significand * 10 + d) ds
    else (significand, ds.length + 1)

/-- The number of a literal, given its sign, its digits before and after the point and its
exponent. Without fraction and exponent it is an integer if that fits 64 bits, signed or unsigned,
except that `-0` is the binary64 zero. A literal beyond the largest finite number has none. -/
def ofLiteral? (negative : Bool) (whole fraction : List Nat) (exponent : Option Int) :
    Option Number :=
  let (significand, dropped) := gather 0 whole
  let integral := fraction.isEmpty && exponent.isNone && dropped == 0
  if integral && !negative then some (.int significand)
  else if integral && 0 < significand && significand ≤ Nat.pow 2 63 then some (.int (-significand))
  else
    let (significand, dropped') := gather significand fraction
    let scale : Int := dropped - (fraction.length - dropped' : Nat) + exponent.getD 0
    (Double.ofDecimal? negative significand scale).map .float

end Number

end Sift
