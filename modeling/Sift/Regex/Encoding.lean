import Sift.Regex.CharSet

/-!
# Character sets as byte sequences

A set of characters is a set of byte sequences, by the encoding of characters as one to four bytes:
the first byte tells their number, and the others carry six bits each. `CharSet.sequences` gives the
sequences of ranges of bytes that make up a set, in increasing order. `forwardStates` and
`backwardNodes` count what an automaton needs to read them from either end.
-/

namespace Sift.Regex

/-! ## Sets as runs of code points -/

def asciiList (test : Char → Bool) : Text.InversionList :=
  .ofCodes ((List.range 128).filter fun code => test (Char.ofNat code))

/-- A set together with the variants of those of its members that are among the given codes. -/
def variantClosure (contains : Char → Bool) (variants : Char → List Char) (codes : List Nat)
    (list : Text.InversionList) : Text.InversionList :=
  let members := (codes.map Char.ofNat).filter contains
  let variants := (members.flatMap variants).map Char.toNat
  .combine (· || ·) list (.ofCodes (variants.mergeSort (· ≤ ·)))

def CharSet.toList : CharSet → Text.InversionList
  | .empty => ⟨[]⟩
  | .range first last => ⟨if first ≤ last then [first.toNat, last.toNat + 1] else []⟩
  | .digit => Unicode.decimalDigits
  | .word => Unicode.wordCharacters
  | .space => Unicode.whiteSpace
  | .ascii cls => asciiList fun c => cls.contains c
  | .complement s => .combine (fun a _ => !a) s.toList ⟨[]⟩
  | .union s t => .combine (· || ·) s.toList t.toList
  | .intersection s t => .combine (· && ·) s.toList t.toList
  | .difference s t => .combine (fun a b => a && !b) s.toList t.toList
  | .symmetricDifference s t => .combine (· != ·) s.toList t.toList
  | .anyCase s => variantClosure (fun c => s.contains c) Unicode.caseVariants Unicode.foldable s.toList
  | .anyAsciiCase s =>
    variantClosure (fun c => s.contains c) asciiVariants (List.range 128) s.toList

/-! ## Runs as byte sequences -/

/-- A range of bytes, or of their low bits, by its first and its last member. -/
abbrev ByteRange := Nat × Nat

/-- The sequences for the numbers from `first` to `last`, of which each byte after the first one
carries six bits; there are `n` of these. -/
def ByteRange.sequences : Nat → Nat → Nat → List (List ByteRange)
  | 0, first, last => [[(first, last)]]
  | n + 1, first, last =>
    let unit := Nat.pow 64 (n + 1)
    let low := first / unit
    let high := last / unit
    if low = high then (sequences n (first % unit) (last % unit)).map ((low, low) :: ·)
    else
      let fromStart := first % unit = 0
      let toEnd := last % unit = unit - 1
      -- whole units lie from `low'` up to, but not including, `high'`
      let low' := if fromStart then low else low + 1
      let high' := if toEnd then high + 1 else high
      let start :=
        if fromStart then [] else (sequences n (first % unit) (unit - 1)).map ((low, low) :: ·)
      let middle :=
        if low' < high' then (sequences n 0 (unit - 1)).map ((low', high' - 1) :: ·) else []
      let finish := if toEnd then [] else (sequences n 0 (last % unit)).map ((high, high) :: ·)
      start ++ middle ++ finish

/-- The code points that take the same number of bytes: the first and the last one, how many bytes
follow the first byte, and what is added to that byte. -/
def encodings : List (Nat × Nat × Nat × Nat) :=
  [(0, 0x7F, 0, 0), (0x80, 0x7FF, 1, 0xC0), (0x800, 0xD7FF, 2, 0xE0), (0xE000, 0xFFFF, 2, 0xE0),
    (0x10000, 0x10FFFF, 3, 0xF0)]

def runSequences (run : Nat × Nat) : List (List ByteRange) :=
  encodings.flatMap fun (lowest, highest, more, mark) =>
    let first := max run.1 lowest
    let last := min run.2 highest
    if last < first then []
    else
      (ByteRange.sequences more first last).map fun
        | (low, high) :: rest => (low + mark, high + mark) :: rest
        | [] => []

/-- The sequences of byte ranges that make up a set, in increasing order. -/
def CharSet.sequences (s : CharSet) : List (List ByteRange) :=
  s.toList.runs.flatMap runSequences

/-! ## Automata for byte sequences -/

/-- The sequences with a common first range, without it, for each such range. -/
def byFirst : List (List ByteRange) → List (ByteRange × List (List ByteRange))
  | [] => []
  | [] :: rest => byFirst rest
  | (first :: more) :: rest =>
    match byFirst rest with
    | (next, rests) :: others =>
      if next = first then (next, more :: rests) :: others
      else (first, [more]) :: (next, rests) :: others
    | [] => [(first, [more])]

/-- What is still to be read at each state before the last one, for sequences of at most `n`
ranges. -/
def statesWithin : Nat → List (List ByteRange) → List (List (List ByteRange))
  | 0, _ => []
  | n + 1, sequences =>
    let edges := byFirst sequences
    if edges.isEmpty then []
    else sequences :: edges.flatMap fun (_, rest) => statesWithin n rest

/-- The states of an automaton that reads the sequences from their first byte, each by the number of
its edges. States with the same rest to read are one. -/
def forwardStates (sequences : List (List ByteRange)) : List Nat :=
  (statesWithin 4 sequences).eraseDups.map fun rest => (byFirst rest).length

def agreement : List ByteRange → List ByteRange → Nat
  | a :: as, b :: bs => if a = b then agreement as bs + 1 else 0
  | _, _ => 0

/-- The number of states of an automaton that reads the sequences from their last byte and shares
what they have in common at the start, when `previous` was added before. -/
def backwardNodes (previous : List ByteRange) : List (List ByteRange) → Nat
  | [] => 0
  | sequence :: rest =>
    sequence.length - agreement previous sequence + backwardNodes sequence rest

end Sift.Regex
