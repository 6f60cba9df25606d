import Sift.Json.Token
import Sift.Regex.Modes

/-!
# Escapes

What a backslash and the characters after it stand for: a character, a set or an assertion. Any
ASCII character that is neither letter nor digit may stand for itself; other letters and all digits
are refused.
-/

namespace Sift.Regex

/-- What a single element of a pattern's source stands for. -/
inductive Atom where
  | literal (c : Char)
  | set (s : CharSet)
  | assertion (a : Assertion)

namespace Escape

open Json.Token (hexDigit? hexValue?)

def ofCode? (code : Nat) : Option Char :=
  if code.isValidChar then some (Char.ofNat code) else none

def hexDigits? (modes : Modes) : Nat → List Char → Option (List Char × List Char)
  | 0, cs => some ([], cs)
  | _ + 1, [] => none
  | n + 1, c :: rest =>
    if (hexDigit? c).isNone then none
    else
      -- nothing is skipped after the last digit
      let rest := if n = 0 then rest else modes.skip rest
      (hexDigits? modes n rest).map fun (digits, rest) => (c :: digits, rest)

/-- A character by its code: `n` hexadecimal digits, or any number of them in braces. Without
Unicode two digits mean a byte, which has to be one of ASCII. -/
def hex? (modes : Modes) (n : Nat) (cs : List Char) : Option (Char × List Char) :=
  match modes.skip cs with
  | '\x7b' :: rest =>
    let (digits, rest) :=
      modes.takeWhile (fun c => (hexDigit? c).isSome) rest.length (modes.skip rest)
    match digits, rest with
    | [], _ => none
    | digits, '\x7d' :: rest => do
      let code ← hexValue? digits
      let c ← ofCode? code
      return (c, rest)
    | _, _ => none
  | cs => do
    let (digits, rest) ← hexDigits? modes n cs
    let code ← hexValue? digits
    let c ← ofCode? code
    if n = 2 && !modes.allows c then none else return (c, rest)

def isEdgeChar (c : Char) : Bool :=
  c.isAlpha || c = '-'

def edge? (name : List Char) : Option WordSide :=
  match String.ofList name with
  | "start" => some .start
  | "end" => some .finish
  | "start-half" => some .startHalf
  | "end-half" => some .finishHalf
  | _ => none

/-- A word boundary after its letter: a name in braces says which edge is meant. Braces that hold
no name are left for a repetition. -/
def boundary? (modes : Modes) (cs : List Char) : Option (WordSide × List Char) :=
  match cs with
  | '\x7b' :: inner =>
    match modes.skip inner with
    | [] => none
    | c :: more =>
      if isEdgeChar c then
        let (name, rest) := modes.takeWhile isEdgeChar (c :: more).length (c :: more)
        match rest with
        | '\x7d' :: rest => (edge? name).map fun side => (side, rest)
        | _ => none
      else some (.boundary, cs)
  | _ => some (.boundary, cs)

/-- What follows a backslash. -/
def read? (modes : Modes) (cs : List Char) : Option (Atom × List Char) :=
  match cs with
  | [] => none
  | c :: rest =>
    match c with
    | 'x' => (hex? modes 2 rest).map fun (c, rest) => (.literal c, rest)
    | 'u' => (hex? modes 4 rest).map fun (c, rest) => (.literal c, rest)
    | 'U' => (hex? modes 8 rest).map fun (c, rest) => (.literal c, rest)
    | 'd' | 's' | 'w' => some (.set (modes.letterClass c), rest)
    | 'D' | 'S' | 'W' =>
      (modes.complement? (modes.letterClass c.toLower)).map fun s => (.set s, rest)
    | 'a' => some (.literal '\x07', rest)
    | 'f' => some (.literal '\x0c', rest)
    | 't' => some (.literal '\t', rest)
    | 'n' => some (.literal '\n', rest)
    | 'r' => some (.literal '\r', rest)
    | 'v' => some (.literal '\x0b', rest)
    | 'A' => some (.assertion .textStart, rest)
    | 'z' => some (.assertion .textEnd, rest)
    | 'b' => (boundary? modes rest).map fun (side, rest) => (.assertion (modes.word side), rest)
    | 'B' => some (.assertion (modes.word .inside), rest)
    | '<' => some (.assertion (modes.word .start), rest)
    | '>' => some (.assertion (modes.word .finish), rest)
    | _ => if c ≤ '\x7f' && !c.isAlphanum then some (.literal c, rest) else none

end Escape

end Sift.Regex
