import Sift.Regex.Brackets
import Sift.Regex.Size
import Sift.Regex.Unicode.Alphabetic
import Sift.Regex.Unicode.Numeric

/-!
# Reading patterns

The source of a pattern is read in one pass. A `Level` collects the alternatives of a group, and
the groups around it wait with the modes to go back to when they go on. `Regex.ofSource?` is the
pattern of a source, if it is well-formed: groups and brackets are closed, a repetition has
something to repeat, its limits are in order, and neither look-around nor back-references occur.
Besides, the source must not be nested too deep, nor the pattern be too large.
-/

namespace Sift.Regex

namespace Reader

/-- An element of a sequence: a pattern, or a change of modes, which cannot be repeated. -/
inductive Item where
  | pattern (p : Nested Regex)
  | modeChange

/-- What was read of a group: finished alternatives and the items of the current one, both with the
last one first. -/
structure Level where
  branches : List (Nested Regex)
  items : List Item

def Item.pattern? : Item → Option Regex
  | .pattern p => some p.value
  | .modeChange => none

def Item.depth : Item → Nat
  | .pattern p => p.depth
  | .modeChange => 0

def sequence : List Regex → Regex
  | [] => .empty
  | [p] => p
  | p :: rest => .seq p (sequence rest)

namespace Level

def empty : Level := ⟨[], []⟩

def push (level : Level) (p : Nested Regex) : Level :=
  { level with items := .pattern p :: level.items }

def pushModeChange (level : Level) : Level :=
  { level with items := .modeChange :: level.items }

def current (level : Level) : Nested Regex :=
  ⟨sequence (level.items.reverse.filterMap Item.pattern?), listDepth (level.items.map Item.depth)⟩

def alternate (level : Level) : Level :=
  ⟨level.current :: level.branches, []⟩

def whole (level : Level) : Nested Regex :=
  let current := level.current
  ⟨level.branches.foldl (fun p branch => .choice branch.value p) current.value,
    listDepth ((current :: level.branches).map Nested.depth)⟩

def iterate? (level : Level) (least : Nat) (most : Option Nat) : Option Level :=
  match level.items with
  | .pattern p :: items =>
    some { level with items := .pattern ⟨.iterate p.value least most, p.depth + 1⟩ :: items }
  | _ => none

end Level

/-- What waits around a group: the level and the modes to go on with, and whether the match of the
group is remembered. -/
structure Outer where
  level : Level
  modes : Modes
  remembered : Bool

/-- Where the reader stands: the modes in force, the innermost group, what waits around it, and the
names of groups so far. -/
structure State where
  modes : Modes
  level : Level
  outer : List Outer
  names : List String

namespace State

def push (s : State) (p : Nested Regex) : State :=
  { s with level := s.level.push p }

def pushLeaf (s : State) (p : Regex) : State :=
  s.push (.leaf p)

def pushAtom (s : State) : Atom → State
  | .literal c => s.pushLeaf (.char (s.modes.cased (.single c)))
  | .set set => s.pushLeaf (.char set)
  | .assertion a => s.pushLeaf (.assertion a)

def openGroup (s : State) (modes : Modes) (remembered : Bool) : State :=
  { s with modes := modes, level := .empty, outer := ⟨s.level, s.modes, remembered⟩ :: s.outer }

/-- Close the innermost group and go back to the modes before it. -/
def closeGroup? (s : State) : Option State :=
  match s.outer with
  | [] => none
  | outer :: around =>
    let inner := s.level.whole
    let p := if outer.remembered then .group inner.value else inner.value
    some { s with
      modes := outer.modes, level := outer.level.push ⟨p, inner.depth + 1⟩, outer := around }

end State

/-! ## Groups -/

def startsName (c : Char) : Bool :=
  c = '_' || Unicode.isAlphabetic c

def continuesName (c : Char) : Bool :=
  startsName c || Unicode.isNumeric c || c = '.' || c = '[' || c = ']'

/-- Open a group that has a name, after the opening angle bracket. Names are not reused. -/
def namedGroup? (s : State) (cs : List Char) : Option (State × List Char) :=
  let name := cs.takeWhile (· != '>')
  let wellFormed := match name with
    | [] => false
    | c :: rest => startsName c && rest.all continuesName
  match cs.dropWhile (· != '>') with
  | '>' :: rest =>
    let name := String.ofList name
    if wellFormed && !s.names.contains name then
      some ({ s.openGroup s.modes true with names := name :: s.names }, rest)
    else none
  | _ => none

/-- The modes after letters that turn modes on, or off behind a dash; whether there was any letter;
and the text from the colon or parenthesis that ends them. -/
def modeLetters? (modes : Modes) (seen : List Char) (on : Bool) :
    List Char → Option (Modes × Bool × List Char)
  | [] => none
  | c :: rest =>
    if c = ':' || c = ')' then
      -- a dash needs a letter behind it
      if !on && seen.head? == some '-' then none else some (modes, !seen.isEmpty, c :: rest)
    else if seen.contains c then none
    else if c = '-' then modeLetters? modes (c :: seen) false rest
    else
      match modes.set? c on with
      | some modes => modeLetters? modes (c :: seen) on rest
      | none => none

/-- A group or a change of modes, after the question mark. -/
def modeGroup? (s : State) (cs : List Char) : Option (State × List Char) :=
  match modeLetters? s.modes [] true cs with
  | some (modes, _, ':' :: rest) => some (s.openGroup modes false, rest)
  | some (modes, true, ')' :: rest) =>
    some ({ s with modes := modes, level := s.level.pushModeChange }, rest)
  | _ => none

def group? (s : State) (cs : List Char) : Option (State × List Char) :=
  match s.modes.skip cs with
  | '?' :: '=' :: _ => none
  | '?' :: '!' :: _ => none
  | '?' :: '<' :: '=' :: _ => none
  | '?' :: '<' :: '!' :: _ => none
  | '?' :: 'P' :: '<' :: rest => namedGroup? s rest
  | '?' :: '<' :: rest => namedGroup? s rest
  | '?' :: rest => modeGroup? s rest
  | rest => some (s.openGroup s.modes true, rest)

/-! ## Repetition -/

/-- Limits of repetition stay below `2 ^ 32`. -/
def countLimit : Nat := Nat.pow 2 32

/-- The decimal number at the head, `none` inside if there are no digits. Blanks around it are
skipped in every mode. -/
def count? (modes : Modes) (cs : List Char) : Option (Option Nat × List Char) :=
  let cs := cs.dropWhile Unicode.isWhiteSpace
  let (digits, rest) := modes.takeWhile Char.isDigit cs.length cs
  let rest := modes.skip (rest.dropWhile Unicode.isWhiteSpace)
  let value := digits.foldl (fun value c => value * 10 + (c.toNat - '0'.toNat)) 0
  if digits.isEmpty then some (none, rest)
  else if value < countLimit then some (some value, rest)
  else none

/-- The limits of a repetition, after the opening brace, and what follows the closing one. -/
def limits? (modes : Modes) (cs : List Char) : Option (Nat × Option Nat × List Char) := do
  let (least, rest) ← count? modes (modes.skip cs)
  let least ← least
  match rest with
  | '\x7d' :: rest => return (least, some least, rest)
  | ',' :: rest =>
    match modes.skip rest with
    | '\x7d' :: rest => return (least, none, rest)
    | rest =>
      let (most, rest) ← count? modes rest
      let most ← most
      match rest with
      | '\x7d' :: rest => if least ≤ most then return (least, some most, rest) else none
      | _ => none
  | _ => none

/-- Skip the question mark that makes a repetition reluctant: it changes which match is found, not
whether there is one. -/
def skipReluctant : List Char → List Char
  | '?' :: rest => rest
  | cs => cs

def iterate? (s : State) (least : Nat) (most : Option Nat) (rest : List Char) :
    Option (State × List Char) :=
  (s.level.iterate? least most).map fun level => ({ s with level := level }, skipReluctant rest)

/-! ## The whole source -/

/-- The state after the element at the head of a source, and what follows. -/
def step? (s : State) (c : Char) (rest : List Char) : Option (State × List Char) :=
  match c with
  | '(' => group? s rest
  | ')' => s.closeGroup?.map fun s => (s, rest)
  | '|' => some ({ s with level := s.level.alternate }, rest)
  | '[' =>
    (Brackets.read? s.modes rest).map fun (set, rest) =>
      (s.push ⟨.char set.value, set.depth⟩, rest)
  | '?' => iterate? s 0 (some 1) rest
  | '*' => iterate? s 0 none rest
  | '+' => iterate? s 1 none rest
  | '\x7b' => do
    let (least, most, rest) ← limits? s.modes rest
    iterate? s least most (s.modes.skip rest)
  | '\\' => (Escape.read? s.modes rest).map fun (atom, rest) => (s.pushAtom atom, rest)
  | '.' => (s.modes.dot?).map fun set => (s.pushLeaf (.char set), rest)
  | '^' => some (s.pushLeaf (.assertion s.modes.caret), rest)
  | '$' => some (s.pushLeaf (.assertion s.modes.dollar), rest)
  | c => some (s.pushAtom (.literal c), rest)

/-- The pattern of the rest of a source. Each element takes a character at least, so `fuel` may be
its length. -/
def readWithin? (fuel : Nat) (s : State) (cs : List Char) : Option (Nested Regex) :=
  match fuel, s.modes.skip cs with
  | _, [] => if s.outer.isEmpty then some s.level.whole else none
  | 0, _ => none
  | fuel + 1, c :: rest => do
    let (s, rest) ← step? s c rest
    readWithin? fuel s rest

end Reader

/-- The pattern of a source that is read in the given modes, if it is well-formed and within the
limits. -/
def ofSource? (modes : Modes) (source : String) : Option Regex :=
  match Reader.readWithin? source.length ⟨modes, .empty, [], []⟩ source.toList with
  | some p => if p.depth ≤ depthLimit && p.value.fits then some p.value else none
  | none => none

end Sift.Regex
