import Sift.Regex.Unicode.CaseVariants
import Sift.Regex.Unicode.DecimalDigits
import Sift.Regex.Unicode.WhiteSpace
import Sift.Regex.Unicode.WordCharacters

/-!
# Character sets of patterns

A `CharSet` is what one character of a text is tested against: ranges, the classes of Unicode and
of ASCII, and what brackets make of them. `CharSet.contains` decides membership.
-/

namespace Sift.Regex

/-- A class of ASCII characters that has a name. -/
inductive AsciiClass where
  | alnum | alpha | ascii | blank | cntrl | digit | graph | lower | print | punct | space | upper
  | word | xdigit
  deriving DecidableEq, Repr

namespace AsciiClass

def ofName? : String → Option AsciiClass
  | "alnum" => some .alnum
  | "alpha" => some .alpha
  | "ascii" => some .ascii
  | "blank" => some .blank
  | "cntrl" => some .cntrl
  | "digit" => some .digit
  | "graph" => some .graph
  | "lower" => some .lower
  | "print" => some .print
  | "punct" => some .punct
  | "space" => some .space
  | "upper" => some .upper
  | "word" => some .word
  | "xdigit" => some .xdigit
  | _ => none

def contains (c : Char) : AsciiClass → Bool
  | .alnum => c.isAlphanum
  | .alpha => c.isAlpha
  | .ascii => c ≤ '\x7f'
  | .blank => c = ' ' || c = '\t'
  | .cntrl => c < ' ' || c = '\x7f'
  | .digit => c.isDigit
  | .graph => '!' ≤ c && c ≤ '~'
  | .lower => c.isLower
  | .print => ' ' ≤ c && c ≤ '~'
  | .punct => '!' ≤ c && c ≤ '~' && !c.isAlphanum
  | .space => c = ' ' || ('\t' ≤ c && c ≤ '\r')
  | .upper => c.isUpper
  | .word => c.isAlphanum || c = '_'
  | .xdigit => c.isDigit || ('a' ≤ c && c ≤ 'f') || ('A' ≤ c && c ≤ 'F')

end AsciiClass

inductive CharSet where
  | empty
  | range (first last : Char)
  /-- Decimal digits of every script. -/
  | digit
  | word
  | space
  | ascii (cls : AsciiClass)
  | complement (s : CharSet)
  | union (s t : CharSet)
  | intersection (s t : CharSet)
  | difference (s t : CharSet)
  | symmetricDifference (s t : CharSet)
  /-- The members with all their case variants. -/
  | anyCase (s : CharSet)
  | anyAsciiCase (s : CharSet)
  deriving DecidableEq, Repr

namespace CharSet

def any : CharSet := .complement .empty

def single (c : Char) : CharSet := .range c c

def unions (sets : List CharSet) : CharSet :=
  sets.foldl .union .empty

/-- The other letter of a pair that ASCII knows. -/
def asciiVariants (c : Char) : List Char :=
  [c, c.toLower, c.toUpper]

def contains (c : Char) : CharSet → Bool
  | .empty => false
  | .range first last => first ≤ c && c ≤ last
  | .digit => Unicode.isDecimalDigit c
  | .word => Unicode.isWord c
  | .space => Unicode.isWhiteSpace c
  | .ascii cls => cls.contains c
  | .complement s => !s.contains c
  | .union s t => s.contains c || t.contains c
  | .intersection s t => s.contains c && t.contains c
  | .difference s t => s.contains c && !t.contains c
  | .symmetricDifference s t => s.contains c != t.contains c
  | .anyCase s => (Unicode.caseVariants c).any fun d => s.contains d
  | .anyAsciiCase s => (asciiVariants c).any fun d => s.contains d

end CharSet

end Sift.Regex
