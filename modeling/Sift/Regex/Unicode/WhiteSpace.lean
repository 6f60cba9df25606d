import Sift.Text.InversionList

/-!
# White space

The characters of the property White_Space.
-/

namespace Sift.Regex.Unicode

def whiteSpace : Text.InversionList := ⟨[
  9, 14, 32, 33, 133, 134, 160, 161, 5760, 5761, 8192, 8203, 8232, 8234, 8239, 8240, 8287, 8288,
  12288, 12289]⟩

def isWhiteSpace (c : Char) : Bool :=
  whiteSpace.contains c

end Sift.Regex.Unicode
