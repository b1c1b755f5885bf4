/-
JSON values as text.

* `Json.quoted`: a string in quotes, with what must be escaped escaped;
* `Json.compact`: the text without blanks;
* `Json.pretty`: one member or item a line, indented by two blanks for each level.
-/
import OpenApiTypes.Json.Value

namespace OpenApiTypes.Json

/-- The hexadecimal digit of a number below sixteen. -/
def hexChar (n : Nat) : Char := (Nat.toDigits 16 n).headD '0'

/-- A character inside quotes: control characters, quotes and backslashes are escaped. -/
def escapedChar (c : Char) : List Char :=
  if c == '"' then ['\\', '"']
  else if c == '\\' then ['\\', '\\']
  else if c == '\n' then ['\\', 'n']
  else if c == '\r' then ['\\', 'r']
  else if c == '\t' then ['\\', 't']
  else if c == '\x08' then ['\\', 'b']
  else if c == '\x0c' then ['\\', 'f']
  else if c.toNat < 0x20 then
    ['\\', 'u', '0', '0', hexChar (c.toNat / 16), hexChar (c.toNat % 16)]
  else [c]

/-- A string in quotes. -/
def quoted (s : String) : String := String.ofList ('"' :: s.toList.flatMap escapedChar ++ ['"'])

/-- The text of a value that is no container, and of an empty container. -/
def scalarText : Json → String
  | null => "null"
  | bool true => "true"
  | bool false => "false"
  | number n => n.text
  | str s => quoted s
  | arr _ => "[]"
  | obj _ => "\x7b\x7d"

/-! ### Without blanks -/

mutual

/-- The text without blanks. -/
def compact : Json → String
  | arr items => "[" ++ compactItems items ++ "]"
  | obj members => "\x7b" ++ compactMembers members ++ "\x7d"
  | v => scalarText v

/-- Items with commas between them. -/
def compactItems : List Json → String
  | [] => ""
  | [v] => v.compact
  | v :: rest => v.compact ++ "," ++ compactItems rest

/-- Members with commas between them. -/
def compactMembers : List (String × Json) → String
  | [] => ""
  | [(key, v)] => quoted key ++ ":" ++ v.compact
  | (key, v) :: rest => quoted key ++ ":" ++ v.compact ++ "," ++ compactMembers rest

end

/-! ### With one member a line -/

/-- The start of a line at a level of nesting. -/
def lineStart (level : Nat) : String := "\n" ++ String.ofList (List.replicate (2 * level) ' ')

mutual

/-- The text at a level of nesting. -/
def prettyAt (level : Nat) : Json → String
  | arr [] => "[]"
  | obj [] => "\x7b\x7d"
  | arr items => "[" ++ prettyItems (level + 1) items ++ lineStart level ++ "]"
  | obj members => "\x7b" ++ prettyMembers (level + 1) members ++ lineStart level ++ "\x7d"
  | v => scalarText v

/-- Items, each on its own line. -/
def prettyItems (level : Nat) : List Json → String
  | [] => ""
  | [v] => lineStart level ++ v.prettyAt level
  | v :: rest => lineStart level ++ v.prettyAt level ++ "," ++ prettyItems level rest

/-- Members, each on its own line. -/
def prettyMembers (level : Nat) : List (String × Json) → String
  | [] => ""
  | [(key, v)] => lineStart level ++ quoted key ++ ": " ++ v.prettyAt level
  | (key, v) :: rest =>
    lineStart level ++ quoted key ++ ": " ++ v.prettyAt level ++ "," ++ prettyMembers level rest

end

/-- The text with one member or item a line. -/
def pretty (v : Json) : String := v.prettyAt 0

end OpenApiTypes.Json
