import Sift.Json.Reader
import Sift.Query.Execution
import Sift.Regex.Engine

/-!
# The command line

Four commands: `match` tests a value against a condition, `query` projects a value, `split` and
`join` take paths apart and put them together. Values are given as JSON text, or as the name of a
file after an at sign. `CommandLine.run` says what is printed and which code the program ends with,
given the contents of files: 0 for success, 1 for a value that does not match, 2 for any error.
-/

namespace Sift.CommandLine

inductive Command where
  | test (value condition : String)
  | project (value query : String)
  | split (path : String)
  | join (segments : String)
  deriving DecidableEq, Repr

/-- Why nothing was done. -/
inductive Failure where
  | usage
  | unreadableFile (name : String)
  /-- An argument or a file is no JSON text. -/
  | malformedJson
  /-- The segments of a path are not an array of strings. -/
  | notStrings (found : Json)
  | evaluation (e : Error)

def Failure.message : Failure → String
  | .usage =>
    "usage: jcq [-v]... match VALUE CONDITION | query VALUE QUERY | split PATH | join SEGMENTS"
  | .unreadableFile name => "cannot read " ++ name ++ ": there is no such text"
  | .malformedJson => "Invalid JSON: the text is not one JSON value"
  | .notStrings found => "expected an array of strings: found " ++ found.text
  | .evaluation e => e.message

/-- What a run of the program prints, and the code that it ends with. -/
structure Outcome where
  code : Nat
  stdout : String
  stderr : String
  deriving DecidableEq, Repr

/-! ## Arguments -/

/-- Whether an argument only makes the program more talkative. -/
def isVerbosity (arg : String) : Bool :=
  arg = "--verbose" ||
    match arg.toList with
    | '-' :: 'v' :: more => more.all (· = 'v')
    | _ => false

def isOption (arg : String) : Bool :=
  match arg.toList with
  | '-' :: _ :: _ => true
  | _ => false

/-- The arguments that are no options; `none` if an option is unknown. Two dashes end the
options. -/
def positional? : List String → Option (List String)
  | [] => some []
  | arg :: rest =>
    if arg = "--" then some rest
    else if isVerbosity arg then positional? rest
    else if isOption arg then none
    else (positional? rest).map (arg :: ·)

/-- The command that the arguments make. Only options may come before its name, and two dashes there
make no command. -/
def Command.ofArgs? (args : List String) : Option Command :=
  match args.dropWhile isVerbosity with
  | [] => none
  | name :: rest =>
    match name, positional? rest with
    | "match", some [value, condition] => some (.test value condition)
    | "query", some [value, query] => some (.project value query)
    | "split", some [path] => some (.split path)
    | "join", some [segments] => some (.join segments)
    | _, _ => none

def fileName? (arg : String) : Option String :=
  match arg.toList with
  | '@' :: name => some (String.ofList name)
  | _ => none

/-! ## Running -/

/-- The value that an argument stands for, given the contents of files. -/
def readValue (files : String → Option String) (arg : String) : Except Failure Json := do
  let text ←
    match fileName? arg with
    | some name =>
      match files name with
      | some text => pure text
      | none => throw (.unreadableFile name)
    | none => pure arg
  match Json.ofText? text with
  | some v => return v
  | none => throw .malformedJson

def strings? (v : Json) : Option (List String) :=
  match v with
  | .array elements => elements.mapM Json.string?
  | _ => none

def printed (code : Nat) (line : String) : Outcome :=
  ⟨code, line ++ "\n", ""⟩

def Command.run (files : String → Option String) : Command → Except Failure Outcome
  | .test value condition => do
    let v ← readValue files value
    let condition ← readValue files condition
    let matched ← (isMatch v condition).result.mapError .evaluation
    return if matched then printed 0 "true" else printed 1 "false"
  | .project value query => do
    let v ← readValue files value
    let query ← readValue files query
    match ← (execute v query).result.mapError .evaluation with
    | some projected => return printed 0 projected.indented
    | none => return ⟨0, "", ""⟩
  | .split path => do
    let segments ← (Path.split path).mapError fun e => .evaluation (.malformedPath e)
    return printed 0 (Json.array (segments.map .string)).indented
  | .join segments => do
    let v ← readValue files segments
    match strings? v with
    | some segments => return printed 0 (Path.join segments)
    | none => throw (.notStrings v)

/-- Run the program on its arguments, given the contents of files. -/
def run (files : String → Option String) (args : List String) : Outcome :=
  let result := match Command.ofArgs? args with
    | some command => command.run files
    | none => .error .usage
  match result with
  | .ok outcome => outcome
  | .error failure => ⟨2, "", failure.message ++ "\n"⟩

end Sift.CommandLine
