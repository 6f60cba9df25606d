import Sift.Json.Basic

/-!
# The text of JSON values

`Json.text` writes a value on one line without blanks; `Json.indented` writes one member or element
a line, two blanks deeper than its container. In strings only the quote, the backslash and the
characters below the blank are escaped, the common ones by a letter and the rest by four lowercase
hexadecimal digits.
-/

namespace Sift

namespace Json

/-- A character as it stands between the quotes of a string. -/
def escapedChar (c : Char) : String :=
  if c = '"' then "\\\""
  else if c = '\\' then "\\\\"
  else if c = '\x08' then "\\b"
  else if c = '\x0c' then "\\f"
  else if c = '\n' then "\\n"
  else if c = '\r' then "\\r"
  else if c = '\t' then "\\t"
  else if c < ' ' then
    "\\u00" ++ String.ofList [Nat.digitChar (c.toNat / 16), Nat.digitChar (c.toNat % 16)]
  else String.singleton c

def quoted (s : String) : String :=
  "\"" ++ String.join (s.toList.map escapedChar) ++ "\""

/-- Texts in brackets, separated by commas. -/
def enclosed (opening : String) (texts : List String) (closing : String) : String :=
  opening ++ ",".intercalate texts ++ closing

mutual

/-- The value on one line, without blanks. -/
def text : Json → String
  | .null => "null"
  | .bool b => if b then "true" else "false"
  | .number n => n.text
  | .string s => quoted s
  | .array elements => enclosed "[" (elementTexts elements) "]"
  | .object members => enclosed "\x7b" (memberTexts members) "\x7d"

def elementTexts : List Json → List String
  | [] => []
  | v :: rest => v.text :: elementTexts rest

def memberTexts : List Member → List String
  | [] => []
  | ⟨key, value⟩ :: rest => (quoted key ++ ":" ++ value.text) :: memberTexts rest

end

/-- A line break and the blanks of a depth. -/
def lineBreak (depth : Nat) : String :=
  "\n" ++ String.ofList (List.replicate (2 * depth) ' ')

/-- Texts in brackets, each on a line of its own; nothing stands between empty brackets. -/
def stacked (depth : Nat) (opening : String) (texts : List String) (closing : String) : String :=
  if texts.isEmpty then opening ++ closing
  else
    opening ++ lineBreak (depth + 1) ++ ("," ++ lineBreak (depth + 1)).intercalate texts ++
      lineBreak depth ++ closing

mutual

/-- The value over several lines, inside `depth` containers. -/
def indentedAt (depth : Nat) : Json → String
  | .null => "null"
  | .bool b => if b then "true" else "false"
  | .number n => n.text
  | .string s => quoted s
  | .array elements => stacked depth "[" (indentedElements (depth + 1) elements) "]"
  | .object members => stacked depth "\x7b" (indentedMembers (depth + 1) members) "\x7d"

def indentedElements (depth : Nat) : List Json → List String
  | [] => []
  | v :: rest => indentedAt depth v :: indentedElements depth rest

def indentedMembers (depth : Nat) : List Member → List String
  | [] => []
  | ⟨key, value⟩ :: rest =>
    (quoted key ++ ": " ++ indentedAt depth value) :: indentedMembers depth rest

end

/-- The value over several lines. -/
def indented (v : Json) : String :=
  indentedAt 0 v

end Json

end Sift
