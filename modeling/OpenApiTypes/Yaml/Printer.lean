/-
Values written as YAML.

* `Yaml.Style`: how a text is written: as it is, in quotes of either kind, or line by line;
* `Yaml.styleOf`: the plainest style in which a text is read back as a text;
* `Yaml.print`: the text of a value: a member or an item a line.
-/
import OpenApiTypes.Json.Value
import OpenApiTypes.Yaml.Value

namespace OpenApiTypes.Yaml

/-! ### What a text looks like -/

/-- Whether a text without quotes would not be read as that text, or could be taken for a number
with a superfluous zero. -/
def needsQuotes (s : String) : Bool :=
  match plainAtom? s with
  | some (.text _) => hasLeadingZero s.toList
  | _ => true

/-- Whether a character can be written as it is. -/
def isPrintable (c : Char) : Bool :=
  let n := c.toNat
  n == 0x0A || (0x20 ≤ n && n ≤ 0x7E) || (0xA0 ≤ n && n ≤ 0xD7FF)
    || (0xE000 ≤ n && n ≤ 0xFFFD && n ≠ 0xFEFF) || 0x10000 ≤ n

/-- The end of a line, in any form. -/
def isAnyBreak (c : Char) : Bool := isBreak c || c == '\r' || c.toNat == 0x85

/-- Whether a character or the end of a text separates words. -/
def separates (c : Option Char) : Bool :=
  match c with
  | some c => isBlank c || isAnyBreak c
  | none => true

/-- Whether a character has a meaning of its own at the beginning of a text. -/
def signifiesFirst (c : Char) (next : Option Char) : Bool :=
  "#,[]\x7b\x7d&*!|>'\"%@`".toList.contains c
    || ((c == '?' || c == ':' || c == '-') && separates next)

/-- Whether a character has a meaning of its own inside a text. -/
def signifiesInside (before : Char) (c : Char) (next : Option Char) : Bool :=
  (c == ':' && separates next) || (c == '#' && separates (some before))

/-- Whether some character after the first one has a meaning of its own. -/
def anySignifies (before : Char) : List Char → Bool
  | [] => false
  | c :: rest => signifiesInside before c rest.head? || anySignifies c rest

/-- Whether a text without quotes could not be told from signs. -/
def hasSigns (cs : List Char) : Bool :=
  match cs with
  | [] => false
  | c :: rest =>
    cs.take 3 == ['-', '-', '-'] || cs.take 3 == ['.', '.', '.'] || signifiesFirst c rest.head?
      || anySignifies c rest

/-- Whether a character of one kind is followed by one of another kind somewhere. -/
def hasPair (first second : Char → Bool) : List Char → Bool
  | c :: d :: rest => (first c && second d) || hasPair first second (d :: rest)
  | _ => false

/-- What blanks and line ends in a text forbid. -/
structure Layout where
  /-- It begins or ends with a blank or a line end, or it has several lines. -/
  notPlain : Bool
  /-- A line begins with a blank, or there is something that has to be escaped. -/
  notSingle : Bool
  /-- It ends with a blank, or a line does, or there is something that has to be escaped. -/
  notBlock : Bool

/-- What blanks and line ends in a text forbid. -/
def layout (cs : List Char) : Layout :=
  let isSpace := fun c => c == ' '
  let ends := fun (c : Option Char) => match c with
    | some c => c == ' ' || isAnyBreak c
    | none => false
  let special := cs.any fun c => !isPrintable c
  let spaceBreak := hasPair isSpace isAnyBreak cs
  let breakSpace := hasPair isAnyBreak isSpace cs
  { notPlain := ends cs.head? || ends cs.getLast? || cs.any isAnyBreak || special
    notSingle := breakSpace || spaceBreak || special
    notBlock := cs.getLast? == some ' ' || spaceBreak || special }

/-- How a text is written. -/
inductive Style where
  | plain
  | single
  | double
  /-- Line by line. -/
  | literal
deriving DecidableEq, Repr

/-- The style of a text. A key is never written line by line. -/
def styleOf (isKey : Bool) (s : String) : Style :=
  let cs := s.toList
  let l := layout cs
  if cs.contains '\n' then
    if isKey || l.notBlock then .double else .literal
  else if !needsQuotes s && !l.notPlain && !hasSigns cs then .plain
  else if l.notSingle then .double
  else .single

/-! ### Texts -/

/-- The hexadecimal digits of a number, in capitals, so many at least. -/
def hexDigits (width n : Nat) : List Char :=
  let digits := (Nat.toDigits 16 n).map Char.toUpper
  List.replicate (width - digits.length) '0' ++ digits

/-- A character inside double quotes. -/
def doubleQuoted (c : Char) : List Char :=
  let n := c.toNat
  if c == '"' || c == '\\' then ['\\', c]
  else if isPrintable c && !isAnyBreak c then [c]
  else if n == 0x00 then ['\\', '0']
  else if n == 0x07 then ['\\', 'a']
  else if n == 0x08 then ['\\', 'b']
  else if n == 0x09 then ['\\', 't']
  else if n == 0x0A then ['\\', 'n']
  else if n == 0x0B then ['\\', 'v']
  else if n == 0x0C then ['\\', 'f']
  else if n == 0x0D then ['\\', 'r']
  else if n == 0x1B then ['\\', 'e']
  else if n == 0x85 then ['\\', 'N']
  else if n == 0xA0 then ['\\', '_']
  else if n == 0x2028 then ['\\', 'L']
  else if n == 0x2029 then ['\\', 'P']
  else if n ≤ 0xFF then '\\' :: 'x' :: hexDigits 2 n
  else if n ≤ 0xFFFF then '\\' :: 'u' :: hexDigits 4 n
  else '\\' :: 'U' :: hexDigits 8 n

/-- A character inside single quotes. -/
def singleQuoted (c : Char) : List Char := if c == '\'' then ['\'', '\''] else [c]

/-- The sign for the line ends at the end of a text. -/
def chompingSign (cs : List Char) : String :=
  match cs.reverse with
  | [] => "-"
  | [last] => if isBreak last then "+" else "-"
  | last :: before :: _ => if !isBreak last then "-" else if isBreak before then "+" else ""

/-- The sign for the indentation of a text, which is needed if its beginning does not show it. -/
def indentSign (cs : List Char) : String :=
  match cs with
  | c :: _ => if c == ' ' || isBreak c then "2" else ""
  | [] => ""

/-- So many blanks. -/
def blanks (indent : Nat) : String := String.ofList (List.replicate indent ' ')

/-- A new line, indented by so many blanks. -/
def newLine (indent : Nat) : String := "\n" ++ blanks indent

/-- A text with a line end, unless it ends with one. -/
def endLine (s : String) : String :=
  match s.toList.getLast? with
  | some c => if isBreak c then s else s ++ "\n"
  | none => "\n"

/-- Characters of which those that begin a line are indented; empty lines are not. `fresh` tells
whether a line begins here. -/
def indentLines (indent : Nat) (fresh : Bool) : List Char → List Char
  | [] => []
  | c :: rest =>
    if isBreak c then c :: indentLines indent true rest
    else (if fresh then List.replicate indent ' ' else []) ++ c :: indentLines indent false rest

/-- A text in its style; its lines are indented. -/
def textOf (isKey : Bool) (indent : Nat) (s : String) : String :=
  let cs := s.toList
  match styleOf isKey s with
  | .plain => s
  | .single =>
    "'" ++ String.ofList (indentLines indent false (cs.flatMap singleQuoted ++ ['\'']))
  | .double => "\"" ++ String.ofList (cs.flatMap doubleQuoted) ++ "\""
  | .literal =>
    "|" ++ indentSign cs ++ chompingSign cs ++ "\n" ++ String.ofList (indentLines indent true cs)

/-! ### Values -/

/-- Positional notation for first digits between `10 ^ -5` and `10 ^ 15`; a positive exponent has
no sign. -/
def numberStyle : DecimalStyle := ⟨-5, 15, false⟩

/-- The text of a number. -/
def numberText : Number → String
  | .float x => String.ofList (x.render numberStyle)
  | n => n.text

/-- The text of a value that is no collection, or an empty one. -/
def scalarText (indent : Nat) : Json → String
  | .null => "null"
  | .bool b => if b then "true" else "false"
  | .number n => numberText n
  | .str s => textOf false indent s
  | .arr _ => "[]"
  | .obj _ => "\x7b\x7d"

/-- Whether a key can stand before a colon on one line: it has at most 128 bytes and no line end. -/
def isShortLine (key : String) : Bool := key.utf8ByteSize ≤ 128 && !key.toList.any isAnyBreak

/-- A key that cannot, with the signs around it. -/
def longKey (column : Nat) (key : String) : String :=
  endLine ("? " ++ textOf false (column + 2) key) ++ blanks column ++ ": "

mutual

/-- A value whose first line begins at a column. -/
def printAt (column : Nat) : Json → String
  | .arr [] => "[]"
  | .obj [] => "\x7b\x7d"
  | .arr items => printItems column items
  | .obj members => printMembers column members
  | v => scalarText column v

/-- Items at a column. -/
def printItems (column : Nat) : List Json → String
  | [] => ""
  | [v] => "- " ++ printAt (column + 2) v
  | v :: rest =>
    endLine ("- " ++ printAt (column + 2) v) ++ blanks column ++ printItems column rest

/-- Members at a column. The value of a member whose key is no short line begins on a line of its
own. -/
def printMembers (column : Nat) : List (String × Json) → String
  | [] => ""
  | [(key, v)] =>
    if isShortLine key then textOf true column key ++ ":" ++ printMember column v
    else longKey column key ++ printAt (column + 2) v
  | (key, v) :: rest =>
    endLine (if isShortLine key then textOf true column key ++ ":" ++ printMember column v
      else longKey column key ++ printAt (column + 2) v)
      ++ blanks column ++ printMembers column rest

/-- The value of a member at a column. Lists are not indented. -/
def printMember (column : Nat) : Json → String
  | .arr [] => " []"
  | .obj [] => " \x7b\x7d"
  | .arr items => newLine column ++ printItems column items
  | .obj members => newLine (column + 2) ++ printMembers (column + 2) members
  | v => " " ++ scalarText (column + 2) v

end

/-- The text of a value. The lines of a text that is all there is are indented. -/
def print : Json → String
  | .str s => endLine (textOf false 2 s)
  | v => endLine (printAt 0 v)

end OpenApiTypes.Yaml
