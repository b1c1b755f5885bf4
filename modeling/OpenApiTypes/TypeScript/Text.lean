/-
Texts inside generated source.

* `TypeScript.quote`: a text as a string literal in single quotes;
* `TypeScript.isIdentifier`: whether a name can stand without quotes;
* `TypeScript.lineBreak`: a new line at a depth of nesting;
* `TypeScript.commentBlock`: the comment before a declaration, in which `*/` cannot occur early.
-/
import OpenApiTypes.Text.Split

namespace OpenApiTypes.TypeScript

/-! ### Literals and names -/

/-- A character inside single quotes. -/
def quotedChar (c : Char) : List Char :=
  if c == '\\' then ['\\', '\\']
  else if c == '\'' then ['\\', '\'']
  else if c == '\n' then ['\\', 'n']
  else if c == '\r' then ['\\', 'r']
  else if c == '\t' then ['\\', 't']
  else [c]

/-- A text as a string literal. -/
def quote (s : String) : String := String.ofList ('\'' :: s.toList.flatMap quotedChar ++ ['\''])

/-- Characters that may begin a name. -/
def beginsIdentifier (c : Char) : Bool := c.isAlpha || c == '_' || c == '$'

/-- Characters that may follow in a name. -/
def continuesIdentifier (c : Char) : Bool := c.isAlphanum || c == '_' || c == '$'

/-- Whether a name can stand without quotes: ASCII letters, digits, `_` and `$`, no digit first. -/
def isIdentifier (name : String) : Bool :=
  match name.toList with
  | c :: rest => beginsIdentifier c && rest.all continuesIdentifier
  | [] => false

/-- The name of a member, in quotes where it needs them. -/
def memberName (name : String) : String := if isIdentifier name then name else quote name

/-! ### Lines -/

/-- A new line at a depth of nesting. Each level is indented by four blanks. -/
def lineBreak (depth : Nat) : String := "\n" ++ String.ofList (List.replicate (4 * depth) ' ')

/-- A line of a comment. The end of a comment cannot occur in it. -/
def commentLine (depth : Nat) (line : String) : String :=
  lineBreak depth ++ if line.isEmpty then " *" else " * " ++ Text.replace "*/" "*\\/" line

/-- The comment before a declaration, and a new line. Without lines there is no comment. -/
def commentBlock (depth : Nat) (comment : List String) : String :=
  if comment.isEmpty then ""
  else
    "/**" ++ String.join ((comment.flatMap Text.lines).map (commentLine depth))
      ++ lineBreak depth ++ " */" ++ lineBreak depth

end OpenApiTypes.TypeScript
