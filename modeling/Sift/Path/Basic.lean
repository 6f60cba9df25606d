import Sift.Path.Error

/-!
# Field paths

A path is a list of segments, written with dots between them. A segment in single or double quotes
may hold any character; within the quotes a backslash precedes a quote or a backslash that stands
for itself.

* `split` : the segments of a text. The text is read by an automaton that takes a character at a
  time (`State.next`) and says at each dot which segment ended.
* `join` : the text of segments. A segment is quoted if it holds a quote or a backslash; one that
  holds dots only is written bare, and reads as several.
-/

namespace Sift.Path

def isQuote (c : Char) : Bool :=
  c = '"' || c = '\''

def needsEscape (c : Char) : Bool :=
  isQuote c || c = '\\'

/-! ## Splitting -/

/-- Where reading stands in a segment. `done` holds its characters so far, the last one first, and
`opened` is the position of the opening quote. -/
inductive State where
  /-- Before the first character of a segment. -/
  | fresh
  | bare (done : List Char)
  | quoted (quote : Char) (opened : Nat) (done : List Char)
  /-- Within quotes, after a backslash. -/
  | escape (quote : Char) (opened : Nat) (done : List Char)
  | closed (opened : Nat) (done : List Char)

def closedSegment (opened : Nat) (done : List Char) : Except (Fault × Nat) String :=
  if done.isEmpty then .error (.emptySegment, opened + 1) else .ok (String.ofList done.reverse)

/-- The state after the character `c` at position `i`, and the segment that `c` ends. -/
def State.next (i : Nat) (c : Char) : State → Except (Fault × Nat) (Option String × State)
  | .fresh =>
    if c = '.' then .error (.emptySegment, i)
    else if isQuote c then .ok (none, .quoted c i [])
    else if c = '\\' then .error (.strayEscape, i)
    else .ok (none, .bare [c])
  | .bare done =>
    if c = '.' then .ok (some (String.ofList done.reverse), .fresh)
    else if isQuote c then .error (.strayQuote c, i)
    else if c = '\\' then .error (.strayEscape, i)
    else .ok (none, .bare (c :: done))
  | .quoted quote opened done =>
    if c = '\\' then .ok (none, .escape quote opened done)
    else if c = quote then .ok (none, .closed opened done)
    else .ok (none, .quoted quote opened (c :: done))
  | .escape quote opened done =>
    if needsEscape c then .ok (none, .quoted quote opened (c :: done))
    else .error (.badEscape (some c), i - 1)
  | .closed opened done =>
    if c = '.' then (closedSegment opened done).map fun segment => (some segment, .fresh)
    else .error (.afterQuote, i)

/-- The last segment of a text of `n` characters that ends in a state. -/
def State.finish (n : Nat) : State → Except (Fault × Nat) String
  | .fresh => .error (.trailingDot, n - 1)
  | .bare done => .ok (String.ofList done.reverse)
  | .quoted _ opened _ => .error (.unclosedQuote, opened)
  | .escape _ _ _ => .error (.badEscape none, n - 1)
  | .closed opened done => closedSegment opened done

/-- The segments that end in the rest of a text, read from a state at position `i`. -/
def segmentsFrom (state : State) (i : Nat) : List Char → Except (Fault × Nat) (List String)
  | [] => (state.finish i).map fun segment => [segment]
  | c :: rest =>
    match state.next i c with
    | .error e => .error e
    | .ok (none, state) => segmentsFrom state (i + 1) rest
    | .ok (some segment, state) => (segmentsFrom state (i + 1) rest).map (segment :: ·)

def split (path : String) : Except Error (List String) :=
  if path.isEmpty then .error ⟨.empty, -1, path⟩
  else (segmentsFrom .fresh 0 path.toList).mapError fun (fault, i) => ⟨fault, i, path⟩

/-! ## Joining -/

def escaped (c : Char) : List Char :=
  if needsEscape c then ['\\', c] else [c]

def written (segment : String) : String :=
  if segment.toList.any needsEscape then
    "\"" ++ String.ofList (segment.toList.flatMap escaped) ++ "\""
  else segment

def join (segments : List String) : String :=
  ".".intercalate (segments.map written)

end Sift.Path
