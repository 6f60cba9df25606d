import Sift.Error
import Sift.Pattern.Engine

/-!
# Patterns with their source

An `Expression` is a compiled pattern beside its source. In conditions it is written `/source/flags`:
the source may hold slashes, the flags may not. The flags `i`, `m`, `s` and `x` turn options on; `g`,
`y` and `u` are allowed and change nothing for a single test.
-/

namespace Sift.Pattern

/-- A source, and whether its pattern matches somewhere in a text. -/
structure Expression where
  source : String
  isMatch : String → Bool

namespace Expression

def ofSource [Engine] (modes : Modes) (source : String) : Except Error Expression :=
  match Engine.compile modes source with
  | .ok isMatch => .ok ⟨source, isMatch⟩
  | .error text => .error (.invalidOperand (.malformedPattern text))

def addFlag (modes : Modes) (flag : Char) : Except Error Modes :=
  match flag with
  | 'i' => .ok { modes with anyCase := true }
  | 'm' => .ok { modes with multiLine := true }
  | 's' => .ok { modes with dotAll := true }
  | 'x' => .ok { modes with spaced := true }
  | 'g' | 'y' | 'u' => .ok modes
  | _ => .error (.invalidOperand (.unknownFlag flag))

def splitLastSlash? : List Char → Option (List Char × List Char)
  | [] => none
  | c :: rest =>
    match splitLastSlash? rest with
    | some (source, flags) => some (c :: source, flags)
    | none => if c = '/' then some ([], rest) else none

def parts? (literal : String) : Option (String × List Char) :=
  match literal.toList with
  | '/' :: rest =>
    (splitLastSlash? rest).map fun (source, flags) => (String.ofList source, flags)
  | _ => none

/-- The expression that a value is the literal of. The flags are looked at before the source is. -/
def ofJson [Engine] (v : Json) : Except Error Expression :=
  match v.string?.bind parts? with
  | none => .error (.invalidOperand (.notPattern v))
  | some (source, flags) => do
    let modes ← flags.foldlM addFlag .initial
    ofSource modes source

end Expression

end Sift.Pattern
