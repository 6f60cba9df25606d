import Sift.Json.Basic

/-!
# Tokens of JSON text

Brackets, commas and colons, and the values that are written without them. `tokens?` cuts a text
into its tokens and fails on any text that is not a sequence of them: unknown words, numbers with a
superfluous zero or a missing digit or beyond the largest one, strings with a raw control
character, an unknown escape or half of a surrogate pair.
-/

namespace Sift.Json

inductive Token where
  | beginArray
  | endArray
  | beginObject
  | endObject
  | comma
  | colon
  | string (s : String)
  /-- A number, a truth value or null. -/
  | scalar (v : Json)

namespace Token

def isBlank (c : Char) : Bool :=
  c = ' ' || c = '\t' || c = '\n' || c = '\r'

/-! ## Strings -/

def hexDigit? (c : Char) : Option Nat :=
  if '0' ≤ c && c ≤ '9' then some (c.toNat - '0'.toNat)
  else if 'a' ≤ c && c ≤ 'f' then some (c.toNat - 'a'.toNat + 10)
  else if 'A' ≤ c && c ≤ 'F' then some (c.toNat - 'A'.toNat + 10)
  else none

/-- The value of hexadecimal digits, the first one leading. -/
def hexValue? (digits : List Char) : Option Nat :=
  digits.foldlM (fun value c => (hexDigit? c).map (value * 16 + ·)) 0

def isHighSurrogate (unit : Nat) : Bool :=
  0xD800 ≤ unit && unit < 0xDC00

def isLowSurrogate (unit : Nat) : Bool :=
  0xDC00 ≤ unit && unit < 0xE000

def ofSurrogates (high low : Nat) : Char :=
  Char.ofNat (0x10000 + (high - 0xD800) * 0x400 + (low - 0xDC00))

/-- The character that a letter after a backslash stands for. -/
def escaped? (c : Char) : Option Char :=
  match c with
  | '"' => some '"'
  | '\\' => some '\\'
  | '/' => some '/'
  | 'b' => some '\x08'
  | 'f' => some '\x0c'
  | 'n' => some '\n'
  | 'r' => some '\r'
  | 't' => some '\t'
  | _ => none

/-- The rest of a string after its opening quote, and what follows the closing one. `done` holds
the characters read so far, the last one first. -/
def stringRest? (done : List Char) : List Char → Option (String × List Char)
  | [] => none
  | '"' :: rest => some (String.ofList done.reverse, rest)
  | '\\' :: 'u' :: a :: b :: c :: d :: rest => do
    let unit ← hexValue? [a, b, c, d]
    if isHighSurrogate unit then
      match rest with
      | '\\' :: 'u' :: e :: f :: g :: h :: rest => do
        let low ← hexValue? [e, f, g, h]
        if isLowSurrogate low then stringRest? (ofSurrogates unit low :: done) rest else none
      | _ => none
    else if isLowSurrogate unit then none
    else stringRest? (Char.ofNat unit :: done) rest
  | '\\' :: c :: rest => do
    let c ← escaped? c
    stringRest? (c :: done) rest
  | c :: rest => if c < ' ' then none else stringRest? (c :: done) rest

/-! ## Numbers -/

/-- The digits at the head of a text, and what follows them. -/
def digitRun (cs : List Char) : List Nat × List Char :=
  ((cs.takeWhile Char.isDigit).map (fun c => c.toNat - '0'.toNat), cs.dropWhile Char.isDigit)

def digitsValue (digits : List Nat) : Nat :=
  digits.foldl (fun value d => value * 10 + d) 0

/-- The digits after a point, none without a point, and what follows. -/
def fraction? (cs : List Char) : Option (List Nat × List Char) :=
  match cs with
  | '.' :: rest =>
    let (digits, rest) := digitRun rest
    if digits.isEmpty then none else some (digits, rest)
  | _ => some ([], cs)

/-- The signed exponent, none without its letter, and what follows. -/
def exponent? (cs : List Char) : Option (Option Int × List Char) :=
  let read (negative : Bool) (cs : List Char) : Option (Option Int × List Char) :=
    let (digits, rest) := digitRun cs
    if digits.isEmpty then none
    else
      let size : Int := digitsValue digits
      some (some (if negative then -size else size), rest)
  match cs with
  | c :: rest =>
    if c = 'e' || c = 'E' then
      match rest with
      | '+' :: rest => read false rest
      | '-' :: rest => read true rest
      | _ => read false rest
    else some (none, cs)
  | [] => some (none, cs)

/-- A number without its sign, and what follows. A zero is not followed by another digit. -/
def number? (negative : Bool) (cs : List Char) : Option (Number × List Char) := do
  let (whole, rest) := digitRun cs
  if whole.isEmpty || (whole.head? == some 0 && 1 < whole.length) then none
  else
    let (fraction, rest) ← fraction? rest
    let (exponent, rest) ← exponent? rest
    let n ← Number.ofLiteral? negative whole fraction exponent
    return (n, rest)

/-! ## Texts -/

/-- The token at the head of a text that starts with no blank, and what follows. -/
def next? (cs : List Char) : Option (Token × List Char) :=
  match cs with
  | [] => none
  | '[' :: rest => some (.beginArray, rest)
  | ']' :: rest => some (.endArray, rest)
  | '\x7b' :: rest => some (.beginObject, rest)
  | '\x7d' :: rest => some (.endObject, rest)
  | ',' :: rest => some (.comma, rest)
  | ':' :: rest => some (.colon, rest)
  | '"' :: rest => (stringRest? [] rest).map fun (s, rest) => (.string s, rest)
  | 'n' :: 'u' :: 'l' :: 'l' :: rest => some (.scalar .null, rest)
  | 't' :: 'r' :: 'u' :: 'e' :: rest => some (.scalar (.bool true), rest)
  | 'f' :: 'a' :: 'l' :: 's' :: 'e' :: rest => some (.scalar (.bool false), rest)
  | '-' :: rest => (number? true rest).map fun (n, rest) => (.scalar (.number n), rest)
  | _ => (number? false cs).map fun (n, rest) => (.scalar (.number n), rest)

/-- The tokens of a text. Each takes a character at least, so `fuel` may be the text's length. -/
def tokensWithin? (fuel : Nat) (cs : List Char) : Option (List Token) :=
  match fuel, cs.dropWhile isBlank with
  | _, [] => some []
  | 0, _ => none
  | fuel + 1, cs => do
    let (token, rest) ← next? cs
    let tokens ← tokensWithin? fuel rest
    return token :: tokens

def tokens? (text : String) : Option (List Token) :=
  tokensWithin? text.length text.toList

end Token

end Sift.Json
