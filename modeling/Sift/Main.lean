import Sift.CommandLine

/-!
# The program

Reads the files that the arguments refer to, runs the command line on them, and prints what it
says.
-/

namespace Sift.CommandLine

/-- The contents of the files that arguments refer to; files that cannot be read are left out. -/
def readFiles (args : List String) : IO (List (String × String)) := do
  let mut files := []
  for name in args.filterMap fileName? do
    let text? ← (some <$> IO.FS.readFile name) <|> pure none
    if let some text := text? then
      files := (name, text) :: files
  return files

end Sift.CommandLine

def main (args : List String) : IO UInt32 := do
  let files ← Sift.CommandLine.readFiles args
  let outcome := Sift.CommandLine.run (fun name => files.lookup name) args
  IO.print outcome.stdout
  IO.eprint outcome.stderr
  return outcome.code.toUInt32
