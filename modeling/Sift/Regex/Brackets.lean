import Sift.Regex.Escape
import Sift.Regex.Nested

/-!
# Sets in brackets

Brackets hold characters, ranges, classes and further brackets, which are united, and the operators
`&&`, `--` and `~~`, which combine all that stands before them with what follows. The reader goes
through the source once; `Frame` is what waits around the items that are being collected.
-/

namespace Sift.Regex.Brackets

inductive Operation where
  | intersection
  | difference
  | symmetricDifference
  deriving DecidableEq, Repr

def Operation.apply (op : Operation) (s t : CharSet) : CharSet :=
  match op with
  | .intersection => .intersection s t
  | .difference => .difference s t
  | .symmetricDifference => .symmetricDifference s t

/-- What waits while items are collected: the items outside open brackets, or the left operand of
an operator. -/
inductive Frame where
  | brackets (outer : List (Nested CharSet)) (negated : Bool)
  | operand (op : Operation) (left : Nested CharSet)

def united (items : List (Nested CharSet)) : Nested CharSet :=
  ⟨CharSet.unions (items.reverse.map Nested.value), listDepth (items.map Nested.depth)⟩

def operand (modes : Modes) (items : List (Nested CharSet)) : Nested CharSet :=
  let union := united items
  ⟨modes.cased union.value, union.depth⟩

/-- Close the operator that waits for these items, if there is one. Operators associate to the
left, so at most one waits within the same brackets. -/
def closeOperation (modes : Modes) (items : List (Nested CharSet)) (frames : List Frame) :
    Nested CharSet × List Frame :=
  match frames with
  | .operand op left :: frames =>
    let right := operand modes items
    (⟨op.apply left.value right.value, max left.depth right.depth + 1⟩, frames)
  | _ => (united items, frames)

/-- The characters right after opening brackets: a caret negates, dashes and then a closing bracket
stand for themselves. -/
def opening? (modes : Modes) (cs : List Char) : Option (Bool × List CharSet × List Char) :=
  let (negated, cs) := match modes.skip cs with
    | '^' :: rest => (true, modes.skip rest)
    | cs => (false, cs)
  let (dashes, cs) := modes.takeWhile (· = '-') cs.length cs
  let items := dashes.map CharSet.single
  match items, cs with
  | _, [] => none
  | [], ']' :: rest => some (negated, [.single ']'], rest)
  | items, cs => some (negated, items, cs)

def asciiClass? (cs : List Char) : Option (AsciiClass × Bool × List Char) :=
  match cs with
  | ':' :: rest =>
    let (negated, rest) := match rest with
      | '^' :: rest => (true, rest)
      | _ => (false, rest)
    let name := rest.takeWhile (· != ':')
    match rest.dropWhile (· != ':') with
    | ':' :: ']' :: rest =>
      (AsciiClass.ofName? (String.ofList name)).map fun cls => (cls, negated, rest)
    | _ => none
  | _ => none

/-- The set of a class of ASCII. The case variants of its members count before it is negated. -/
def asciiSet? (modes : Modes) (cls : AsciiClass) (negated : Bool) : Option CharSet :=
  modes.signed? negated (modes.cased (.ascii cls))

def item? (modes : Modes) (cs : List Char) : Option (Atom × List Char) :=
  match cs with
  | [] => none
  | '\\' :: rest => Escape.read? modes rest
  | c :: rest => some (.literal c, rest)

def itemSet? (modes : Modes) : Atom → Option CharSet
  | .literal c => if modes.allows c then some (.single c) else none
  | .set s => some s
  | .assertion _ => none

def range? (modes : Modes) : Atom → Atom → Option CharSet
  | .literal first, .literal last =>
    if first ≤ last && modes.allows last then some (.range first last) else none
  | _, _ => none

/-- A character, a class or a range. A dash before the closing bracket or before another dash does
not make a range. -/
def rangeOrItem? (modes : Modes) (cs : List Char) : Option (CharSet × List Char) := do
  let (first, rest) ← item? modes cs
  match modes.skip rest with
  | [] => none
  | '-' :: after =>
    let ahead := modes.peek after
    if ahead = some ']' || ahead = some '-' then return (← itemSet? modes first, '-' :: after)
    else
      let (last, rest) ← item? modes (modes.skip after)
      return (← range? modes first last, rest)
  | rest => return (← itemSet? modes first, rest)

def operation? (cs : List Char) : Option (Operation × List Char) :=
  match cs with
  | '&' :: '&' :: rest => some (.intersection, rest)
  | '-' :: '-' :: rest => some (.difference, rest)
  | '~' :: '~' :: rest => some (.symmetricDifference, rest)
  | _ => none

/-- The set of brackets and what follows them. The items of the innermost brackets come with the
last one first. Each turn takes a character at least. -/
def readWithin? (modes : Modes) (fuel : Nat) (frames : List Frame) (items : List (Nested CharSet))
    (cs : List Char) : Option (Nested CharSet × List Char) :=
  match fuel with
  | 0 => none
  | fuel + 1 =>
    match modes.skip cs with
    | [] => none
    | ']' :: rest => do
      let (inner, frames) := closeOperation modes items frames
      match frames with
      | .brackets outer negated :: frames =>
        let set ← modes.signed? negated (modes.cased inner.value)
        let set := ⟨set, inner.depth + 1⟩
        match frames with
        | [] => return (set, rest)
        | _ => readWithin? modes fuel frames (set :: outer) rest
      | _ => none
    | '[' :: rest =>
      match asciiClass? rest with
      | some (cls, negated, rest) => do
        let set ← asciiSet? modes cls negated
        readWithin? modes fuel frames (.leaf set :: items) rest
      | none => do
        let (negated, inner, rest) ← opening? modes rest
        readWithin? modes fuel (.brackets items negated :: frames) (inner.reverse.map .leaf) rest
    | cs =>
      match operation? cs with
      | some (op, rest) =>
        let (left, frames) := match frames with
          | .operand _ _ :: _ => closeOperation modes items frames
          | _ => (operand modes items, frames)
        readWithin? modes fuel (.operand op left :: frames) [] rest
      | none => do
        let (set, rest) ← rangeOrItem? modes cs
        readWithin? modes fuel frames (.leaf set :: items) rest

/-- The set of brackets, after the opening one, and what follows the closing one. -/
def read? (modes : Modes) (cs : List Char) : Option (Nested CharSet × List Char) := do
  let (negated, items, rest) ← opening? modes cs
  readWithin? modes cs.length [.brackets [] negated] (items.reverse.map .leaf) rest

end Sift.Regex.Brackets
