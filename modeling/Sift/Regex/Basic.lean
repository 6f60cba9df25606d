import Sift.Regex.CharSet

/-!
# Patterns

A `Regex` is a regular expression over characters with assertions about the place between two of
them. `Regex.isMatch` decides whether it matches somewhere in a text. It runs the pattern on all
places at once: a list of marks says at which places a match may stand, and `advance` moves the
marks over all ways to match.
-/

namespace Sift

namespace Regex

/-- What a word assertion says about the characters before and after a place. -/
inductive WordSide where
  /-- One is a word character and the other is none. -/
  | boundary
  /-- Both are word characters, or neither. -/
  | inside
  | start
  | finish
  /-- The one before is no word character. -/
  | startHalf
  /-- The one after is no word character. -/
  | finishHalf
  deriving DecidableEq, Repr

inductive Assertion where
  | textStart
  | textEnd
  /-- The start of a line; a line may also end with a carriage return if `crlf`. -/
  | lineStart (crlf : Bool)
  | lineEnd (crlf : Bool)
  /-- An edge of a word, whose characters are those of the set. -/
  | word (side : WordSide) (characters : CharSet)
  deriving DecidableEq, Repr

/-- Whether an assertion holds between two characters; there is none at an end of the text. -/
def Assertion.holds (before after : Option Char) : Assertion → Bool
  | .textStart => before.isNone
  | .textEnd => after.isNone
  | .lineStart crlf =>
    before.isNone || before == some '\n' ||
      (crlf && before == some '\r' && after != some '\n')
  | .lineEnd crlf =>
    after.isNone ||
      (if crlf then after == some '\r' || (after == some '\n' && before != some '\r')
        else after == some '\n')
  | .word side characters =>
    let wordBefore := before.any fun c => characters.contains c
    let wordAfter := after.any fun c => characters.contains c
    match side with
    | .boundary => wordBefore != wordAfter
    | .inside => wordBefore == wordAfter
    | .start => !wordBefore && wordAfter
    | .finish => wordBefore && !wordAfter
    | .startHalf => !wordBefore
    | .finishHalf => !wordAfter

end Regex

inductive Regex where
  | empty
  | char (set : Regex.CharSet)
  /-- The empty text, at a place where the assertion holds. -/
  | assertion (a : Regex.Assertion)
  | seq (p q : Regex)
  | choice (p q : Regex)
  /-- A pattern at least `least` times, and at most `most` times if that is given. -/
  | iterate (p : Regex) (least : Nat) (most : Option Nat)
  /-- A pattern whose matches are remembered. -/
  | group (p : Regex)
  deriving DecidableEq, Repr

namespace Regex

/-! ## Marks

A text of `n` characters has `n + 1` places, and marks are one truth value for each. -/

/-- A mark wherever one of two lists has it. -/
def merge (a b : List Bool) : List Bool :=
  List.zipWith or a b

/-- Move the marks over one character of a set. The first list has a mark for the place before
each character and one more. -/
def advanceChar (set : CharSet) : List Bool → List Char → List Bool
  | mark :: marks, c :: rest => (mark && set.contains c) :: advanceChar set marks rest
  | _, _ => []

/-- Keep the marks at places where an assertion holds; `before` is the character before the first
place. -/
def keepWhere (a : Assertion) (before : Option Char) : List Bool → List Char → List Bool
  | mark :: marks, [] => (mark && a.holds before none) :: marks
  | mark :: marks, c :: rest => (mark && a.holds before (some c)) :: keepWhere a (some c) marks rest
  | [], _ => []

/-- Apply a move to marks `n` times, or until they stay as they are. -/
def times (move : List Bool → List Bool) : Nat → List Bool → List Bool
  | 0, marks => marks
  | n + 1, marks =>
    let moved := move marks
    if moved = marks then marks else times move n moved

/-- Add the marks that a move leads to, `n` times or until nothing is added. -/
def spread (move : List Bool → List Bool) : Nat → List Bool → List Bool
  | 0, marks => marks
  | n + 1, marks =>
    let wider := merge marks (move marks)
    if wider = marks then marks else spread move n wider

/-- Move the marks over every text that a pattern matches. Without an upper limit a pattern is
repeated until no place is added, and there are no more places than the text has. -/
def advance (text : List Char) : Regex → List Bool → List Bool
  | .empty, marks => marks
  | .char set, marks => false :: advanceChar set marks text
  | .assertion a, marks => keepWhere a none marks text
  | .seq p q, marks => advance text q (advance text p marks)
  | .choice p q, marks => merge (advance text p marks) (advance text q marks)
  | .iterate p least most, marks =>
    let move := advance text p
    let extra := match most with
      | some most => most - least
      | none => text.length + 1
    spread move extra (times move least marks)
  | .group p, marks => advance text p marks

def isMatch (p : Regex) (text : String) : Bool :=
  let cs := text.toList
  (advance cs p (List.replicate (cs.length + 1) true)).any id

end Regex

end Sift
