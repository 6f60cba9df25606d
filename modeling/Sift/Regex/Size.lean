import Sift.Regex.Basic
import Sift.Regex.Encoding

/-!
# The size of patterns

A pattern is only allowed if automata that read the bytes of a text for it, forward and backward,
keep below `sizeLimit`. A count of repetitions is no shortcut there: what is repeated is laid out
once for each time. `Regex.size` is the size of such an automaton, where a state takes 32 bytes,
an edge of a state 8 and an alternative 4.
-/

namespace Sift

namespace Regex

/-! ## Plain forms -/

/-- Whether a pattern matches nothing but the empty text. -/
def isBlank : Regex → Bool
  | .empty => true
  | .char _ => false
  | .assertion _ => true
  | .seq p q => p.isBlank && q.isBlank
  | .choice p q => p.isBlank && q.isBlank
  | .iterate p _ most => p.isBlank || most == some 0
  | .group p => p.isBlank

def admitsEmpty : Regex → Bool
  | .empty => true
  | .char _ => false
  | .assertion _ => true
  | .seq p q => p.admitsEmpty && q.admitsEmpty
  | .choice p q => p.admitsEmpty || q.admitsEmpty
  | .iterate p least _ => p.admitsEmpty || least == 0
  | .group p => p.admitsEmpty

/-- A pattern without parts that are empty, alternatives that are sets, and repetitions that are
none. -/
def plain : Regex → Regex
  | .empty => .empty
  | .char set => .char set
  | .assertion a => .assertion a
  | .seq p q =>
    match p.plain, q.plain with
    | .empty, q => q
    | p, .empty => p
    | p, q => .seq p q
  | .choice p q =>
    match p.plain, q.plain with
    | .char s, .char t => .char (.union s t)
    | p, q => .choice p q
  | .iterate p least most =>
    let p := p.plain
    -- repeating what is empty comes to having it once
    let (least, most) :=
      if p.isBlank then (min least 1, some (min (most.getD 1) 1)) else (least, most)
    if most = some 0 then .empty
    else if least = 1 && most = some 1 then p
    else .iterate p least most
  | .group p => .group p.plain

/-- Whether every match of a pattern has the assertion before everything else, or behind it. -/
def isBoundBy (a : Assertion) (atStart : Bool) : Regex → Bool
  | .empty => false
  | .char _ => false
  | .assertion b => a == b
  | .seq p q =>
    if atStart then p.isBoundBy a atStart || (p.isBlank && q.isBoundBy a atStart)
    else q.isBoundBy a atStart || (q.isBlank && p.isBoundBy a atStart)
  | .choice p q => p.isBoundBy a atStart && q.isBoundBy a atStart
  | .iterate p least _ => least != 0 && p.isBoundBy a atStart
  | .group p => p.isBoundBy a atStart

/-! ## Sizes -/

def stateSize : Nat := 32

def edgeSize : Nat := 8

def alternativeSize : Nat := 4

/-- What tells apart the automata of the two directions: the size of the states that remember a
match, the size of a character set beyond ASCII, and at which end of a text the reading begins. -/
structure Direction where
  group : Nat
  sequences : List (List ByteRange) → Nat
  fromStart : Bool

/-- Reading from the start of a text. Groups remember where they start and end. -/
def Direction.forward : Direction where
  fromStart := true
  group := 2 * stateSize
  sequences := fun sequences =>
    let states := forwardStates sequences
    stateSize * (states.length + 1) + edgeSize * states.foldl (· + ·) 0

def Direction.backward : Direction where
  fromStart := false
  group := 0
  sequences := fun sequences =>
    stateSize * (backwardNodes [] sequences + 2) + alternativeSize * sequences.length

/-- The size of a character set. A single character takes a state for each byte. -/
def CharSet.size (direction : Direction) (s : CharSet) : Nat :=
  let runs := s.toList.runs
  match runs with
  | [(first, last)] =>
    if first = last then stateSize * (Char.ofNat first).utf8Size
    else rangesSize runs
  | runs => rangesSize runs
where
  /-- The size of a set by its runs. Runs within ASCII are edges of one state. -/
  rangesSize (runs : List (Nat × Nat)) : Nat :=
    if runs.all fun run => run.2 < 128 then 2 * stateSize + edgeSize * runs.length
    else direction.sequences (runs.flatMap runSequences)

/-- What an alternative adds to a choice. A choice among the alternatives is no level of its own. -/
def branchSize (size : Nat) : Regex → Nat
  | .choice _ _ => size - 2 * stateSize
  | _ => size + alternativeSize

/-- The size of the part of an automaton that is due to a pattern in plain form. -/
def size (direction : Direction) : Regex → Nat
  | .empty => stateSize
  | .char set => set.size direction
  | .assertion _ => stateSize
  | .seq p q => p.size direction + q.size direction
  | .choice p q =>
    p.branchSize (p.size direction) + q.branchSize (q.size direction) + 2 * stateSize
  | .iterate p least most =>
    let once := p.size direction
    let choice := stateSize + 2 * alternativeSize
    match most with
    | none =>
      if least = 0 then
        if p.admitsEmpty then once + 2 * choice + stateSize else once + choice
      else least * once + choice
    | some most =>
      if least = most then least * once
      else if least = 0 && most = 1 then once + choice + stateSize
      else
        (if least = 0 then stateSize else least * once) + stateSize +
          (most - least) * (once + choice)
  | .group p => p.size direction + direction.group

/-- The size of the states that let a match begin anywhere; a match that begins at an end of the
text does with one. -/
def entrySize (direction : Direction) (p : Regex) : Nat :=
  if p.isBoundBy (if direction.fromStart then .textStart else .textEnd) direction.fromStart then
    stateSize
  else 3 * stateSize + 2 * alternativeSize + edgeSize

/-- The size of the automaton of a pattern in plain form; the whole match is remembered as a group
is, and there is a state for the end of it. -/
def totalSize (direction : Direction) (p : Regex) : Nat :=
  p.entrySize direction + direction.group + p.size direction + stateSize

/-- The greatest size of an automaton: ten mebibytes. -/
def sizeLimit : Nat := 10 * Nat.pow 2 20

def fits (p : Regex) : Bool :=
  let p := p.plain
  p.totalSize .forward ≤ sizeLimit && p.totalSize .backward ≤ sizeLimit

end Regex

end Sift
