import Sift.Regex.Basic

/-!
# Modes of patterns

The modes that are in force at a point of a pattern's source decide what a letter, a dot, a caret,
a dollar and the classes mean there, and whether blanks count. Each mode has a letter, by which a
group turns it on or off.
-/

namespace Sift.Regex

/-- The modes in force at a point of a pattern. -/
structure Modes where
  /-- `i` : a letter stands for its case variants too. -/
  anyCase : Bool
  /-- `m` : caret and dollar stand for the start and the end of a line. -/
  multiLine : Bool
  /-- `s` : the dot stands for a line break too. -/
  dotAll : Bool
  /-- `x` : blanks and comments are skipped. -/
  spaced : Bool
  /-- `u` : classes and case variants are those of Unicode, otherwise those of ASCII. -/
  unicode : Bool
  /-- `R` : a carriage return ends a line too. -/
  crlf : Bool
  deriving DecidableEq, Repr

namespace Modes

/-- Turn the mode of a letter on or off. The letter `U` exchanges greedy and reluctant repetition,
which does not change what a pattern matches. -/
def set? (modes : Modes) (letter : Char) (on : Bool) : Option Modes :=
  match letter with
  | 'i' => some { modes with anyCase := on }
  | 'm' => some { modes with multiLine := on }
  | 's' => some { modes with dotAll := on }
  | 'x' => some { modes with spaced := on }
  | 'u' => some { modes with unicode := on }
  | 'R' => some { modes with crlf := on }
  | 'U' => some modes
  | _ => none

/-! ## Sets under modes

Without Unicode a set must keep to ASCII, so a member beyond it and a complement are refused. -/

/-- A set with the case variants that the modes ask for. -/
def cased (modes : Modes) (s : CharSet) : CharSet :=
  if modes.anyCase then (if modes.unicode then .anyCase s else .anyAsciiCase s) else s

def allows (modes : Modes) (c : Char) : Bool :=
  modes.unicode || c ≤ '\x7f'

def complement? (modes : Modes) (s : CharSet) : Option CharSet :=
  if modes.unicode then some (.complement s) else none

def signed? (modes : Modes) (negated : Bool) (s : CharSet) : Option CharSet :=
  if negated then modes.complement? s else some s

/-- The class of a letter after a backslash: digits, white space or word characters. -/
def letterClass (modes : Modes) (letter : Char) : CharSet :=
  if letter = 'd' then (if modes.unicode then .digit else .ascii .digit)
  else if letter = 's' then (if modes.unicode then .space else .ascii .space)
  else (if modes.unicode then .word else .ascii .word)

def dot? (modes : Modes) : Option CharSet :=
  if modes.dotAll then modes.complement? .empty
  else if modes.crlf then modes.complement? (.union (.single '\n') (.single '\r'))
  else modes.complement? (.single '\n')

def caret (modes : Modes) : Assertion :=
  if modes.multiLine then .lineStart modes.crlf else .textStart

def dollar (modes : Modes) : Assertion :=
  if modes.multiLine then .lineEnd modes.crlf else .textEnd

def word (modes : Modes) (side : WordSide) : Assertion :=
  .word side (modes.letterClass 'w')

/-! ## Blanks -/

/-- Skip blanks and comments; a comment goes from a number sign to the end of the line. -/
def skipSpaced (inComment : Bool) : List Char → List Char
  | [] => []
  | c :: rest =>
    if inComment then skipSpaced (c != '\n') rest
    else if Unicode.isWhiteSpace c then skipSpaced false rest
    else if c = '#' then skipSpaced true rest
    else c :: rest

/-- Skip what has no meaning under the modes. -/
def skip (modes : Modes) (cs : List Char) : List Char :=
  if modes.spaced then skipSpaced false cs else cs

/-- The character that follows, behind blanks and the sign of a comment. -/
def peek (modes : Modes) (cs : List Char) : Option Char :=
  if modes.spaced then
    match cs.dropWhile Unicode.isWhiteSpace with
    | '#' :: rest => (rest.dropWhile Unicode.isWhiteSpace).head?
    | rest => rest.head?
  else cs.head?

/-- The characters at the head that pass a test, with what has no meaning skipped after each. A
character is taken at every turn, so `fuel` may be the length. -/
def takeWhile (modes : Modes) (test : Char → Bool) : Nat → List Char → List Char × List Char
  | 0, cs => ([], cs)
  | _, [] => ([], [])
  | fuel + 1, c :: rest =>
    if test c then
      let (taken, rest) := modes.takeWhile test fuel (modes.skip rest)
      (c :: taken, rest)
    else ([], c :: rest)

end Modes

end Sift.Regex
