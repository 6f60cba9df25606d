import Sift.Text.Cased
import Sift.Text.CaseIgnorable
import Sift.Text.LowercaseRows

/-!
# Lowercase text

`lowercase` writes a text in lowercase. Each character is replaced by its lowercase counterpart,
with two exceptions: the dotted capital I becomes a small i and a combining dot, and a capital
sigma at the end of a word becomes the final sigma. It ends a word if, ignorable characters aside,
a cased character stands before it and none after it.
-/

namespace Sift.Text

/-- Whether the first character that is not ignorable has a case. -/
def startsCased (cs : List Char) : Bool :=
  match cs.dropWhile isCaseIgnorable with
  | [] => false
  | c :: _ => isCased c

def lowercaseChar (c : Char) : List Char :=
  if c = 'İ' then ['i', '\u0307']
  else
    match lowercaseRows.findSome? (·.image? c.toNat) with
    | some code => [Char.ofNat code]
    | none => [c]

/-- The rest of a text in lowercase, given what stands before it, the last character first. -/
def lowercaseAfter (before : List Char) : List Char → List Char
  | [] => []
  | c :: rest =>
    let here :=
      if c = 'Σ' then
        if startsCased before && !startsCased rest then ['ς'] else ['σ']
      else lowercaseChar c
    here ++ lowercaseAfter (c :: before) rest

def lowercase (s : String) : String :=
  String.ofList (lowercaseAfter [] s.toList)

end Sift.Text
