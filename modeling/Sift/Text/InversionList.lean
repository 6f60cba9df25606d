/-!
# Inversion lists

A set of characters as the increasing list of code points at which membership changes: the first
one is the first member, the second one the first code point after it that is no member, and so on.
After the last change membership stays as it is.
-/

namespace Sift.Text

/-- A set of characters, by the code points at which membership changes. -/
structure InversionList where
  changes : List Nat

namespace InversionList

/-- Whether a code point lies behind an odd number of changes. -/
def containsAfter (inside : Bool) (code : Nat) : List Nat → Bool
  | [] => inside
  | change :: rest => if code < change then inside else containsAfter (!inside) code rest

def contains (set : InversionList) (c : Char) : Bool :=
  containsAfter false c.toNat set.changes

/-! ## Sets made of others -/

/-- The members among increasing code points. -/
def ofCodes : List Nat → InversionList
  | [] => ⟨[]⟩
  | code :: rest =>
    match (ofCodes rest).changes with
    | [] => ⟨[code, code + 1]⟩
    | first :: more =>
      if code = first then ⟨first :: more⟩
      else if code + 1 = first then ⟨code :: more⟩
      else ⟨code :: (code + 1) :: first :: more⟩

/-- The changes of a combination of two sets, given on which side of both, and of the combination,
they begin. -/
def combineFrom (op : Bool → Bool → Bool) (inA inB inside : Bool) :
    List Nat → List Nat → List Nat
  | [], [] => []
  | a :: as, [] =>
    let rest := combineFrom op (!inA) inB (op (!inA) inB) as []
    if op (!inA) inB = inside then rest else a :: rest
  | [], b :: bs =>
    let rest := combineFrom op inA (!inB) (op inA (!inB)) [] bs
    if op inA (!inB) = inside then rest else b :: rest
  | a :: as, b :: bs =>
    if a < b then
      let rest := combineFrom op (!inA) inB (op (!inA) inB) as (b :: bs)
      if op (!inA) inB = inside then rest else a :: rest
    else if b < a then
      let rest := combineFrom op inA (!inB) (op inA (!inB)) (a :: as) bs
      if op inA (!inB) = inside then rest else b :: rest
    else
      let rest := combineFrom op (!inA) (!inB) (op (!inA) (!inB)) as bs
      if op (!inA) (!inB) = inside then rest else a :: rest
termination_by as bs => as.length + bs.length

/-- The characters for which the operation holds of membership in the two sets. -/
def combine (op : Bool → Bool → Bool) (a b : InversionList) : InversionList :=
  let changes := combineFrom op false false (op false false) a.changes b.changes
  if op false false then
    match changes with
    | 0 :: rest => ⟨rest⟩
    | changes => ⟨0 :: changes⟩
  else ⟨changes⟩

/-- The first code point behind all characters. -/
def codeLimit : Nat := 0x110000

/-- The runs of members, each with its first and its last one. -/
def runsOf : List Nat → List (Nat × Nat)
  | [] => []
  | [first] => [(first, codeLimit - 1)]
  | first :: next :: rest => (first, next - 1) :: runsOf rest

def runs (set : InversionList) : List (Nat × Nat) :=
  runsOf set.changes

end InversionList

end Sift.Text
