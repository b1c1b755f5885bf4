/-
Templates for names.

* `Template.Content`: what a value stands for: a text, a truth value, or nothing;
* `Template.Piece`: what a template consists of: text, values to print, and conditions around them;
* `Template.pieces?`: the pieces of a template;
* `Template.render?`: the text of a template of such pieces for a name;
* `Template.Engine`: what renders templates; unless another one is at hand, `Template.render?` does;
* `Template.nameFor`: the text of a template that has to contain the name.
-/
import OpenApiTypes.Text.Blank
import OpenApiTypes.Text.Hexadecimal
import OpenApiTypes.Text.Lettering
import OpenApiTypes.Text.Split

namespace OpenApiTypes.Template

open OpenApiTypes.Text

/-! ### The raw parts of a template -/

/-- The kinds of tags. -/
inductive TagKind where
  /-- Prints a value. -/
  | output
  /-- Begins or ends a condition. -/
  | block
  /-- Says nothing. -/
  | comment
deriving DecidableEq, Repr

namespace TagKind

/-- The kind of tag that a character after an opening brace begins. -/
def ofOpening? (c : Char) : Option TagKind :=
  if c == '\x7b' then some output
  else if c == '%' then some block
  else if c == '#' then some comment
  else none

/-- The character that comes before the closing brace of a tag. -/
def closing : TagKind → Char
  | output => '\x7d'
  | block => '%'
  | comment => '#'

/-- Whether strings may stand in a tag. -/
def hasStrings : TagKind → Bool
  | comment => false
  | _ => true

/-- Whether a plus sign may stand at the end of a tag. -/
def mayEndInPlus : TagKind → Bool
  | block => true
  | _ => false

end TagKind

/-- A part of a template as it is written. -/
inductive RawPart where
  | text (content : List Char)
  | tag (kind : TagKind) (content : List Char)
deriving Repr

/-- Where in a template a character stands. Characters already read are in reverse order. -/
inductive Scanning where
  | text (read : List Char)
  | tag (kind : TagKind) (read : List Char)
  /-- Inside a string of a tag that ends at `quote`. -/
  | string (kind : TagKind) (quote : Char) (read : List Char)
deriving Repr

/-- The parts of the rest of a template; none if a tag is not closed. -/
def rawParts? : Scanning → List Char → Option (List RawPart)
  | .text read, [] => some [.text read.reverse]
  | .text read, [c] => some [.text (c :: read).reverse]
  | .text read, c :: d :: rest =>
    match TagKind.ofOpening? d with
    | some kind =>
      if c == '\x7b' then do some (.text read.reverse :: (← rawParts? (.tag kind []) rest))
      else rawParts? (.text (c :: read)) (d :: rest)
    | none => rawParts? (.text (c :: read)) (d :: rest)
  | .tag _ _, [] => none
  | .tag _ _, [_] => none
  | .tag kind read, c :: d :: rest =>
    if c == kind.closing && d == '\x7d' then do
      some (.tag kind read.reverse :: (← rawParts? (.text []) rest))
    else if kind.hasStrings && (c == '\'' || c == '"') then
      rawParts? (.string kind c (c :: read)) (d :: rest)
    else rawParts? (.tag kind (c :: read)) (d :: rest)
  | .string _ _ _, [] => none
  | .string _ _ _, [_] => none
  | .string kind quote read, c :: d :: rest =>
    if c == '\\' then rawParts? (.string kind quote (d :: c :: read)) rest
    else if c == quote then rawParts? (.tag kind (c :: read)) (d :: rest)
    else rawParts? (.string kind quote (c :: read)) (d :: rest)

/-! ### Blanks around tags -/

/-- The content of a tag without the signs at its ends, and whether they were minus signs. A minus
sign tells that blanks on its side are left out; a plus sign says nothing. -/
def trimMarks (kind : TagKind) (content : List Char) : Bool × List Char × Bool :=
  let (before, content) := match content with
    | '-' :: rest => (true, rest)
    | '+' :: rest => (false, rest)
    | rest => (false, rest)
  match content.reverse with
  | '-' :: rest => (before, rest.reverse, true)
  | '+' :: rest => (before, if kind.mayEndInPlus then rest.reverse else content, false)
  | _ => (before, content, false)

/-- A text without blanks at its end. -/
def trimRight (cs : List Char) : List Char := (cs.reverse.dropWhile isBlank).reverse

/-- Leaves out the blanks that tags tell to leave out. `after` tells it of the tag before. -/
def trimParts (after : Bool) : List RawPart → List RawPart
  | [] => []
  | .tag kind content :: rest =>
    let (_, content, next) := trimMarks kind content
    .tag kind content :: trimParts next rest
  | .text content :: rest =>
    let content := if after then content.dropWhile isBlank else content
    let content := match rest with
      | .tag kind tag :: _ => if (trimMarks kind tag).1 then trimRight content else content
      | _ => content
    .text content :: trimParts false rest

/-- A template without the line end at its end. -/
def withoutFinalLineEnd (cs : List Char) : List Char :=
  let cs := match cs.reverse with
    | '\n' :: rest => rest
    | rest => rest
  match cs with
  | '\r' :: rest => rest.reverse
  | rest => rest.reverse

/-! ### Tokens -/

/-- A token inside a tag. -/
inductive Token where
  | word (name : String)
  | string (value : String)
  | symbol (c : Char)
deriving DecidableEq, Repr

/-- What the characters read so far have begun, inside a tag. -/
inductive Mode where
  | between
  | word (read : List Char)
  | string (quote : Char) (read : List Char)
  | escape (quote : Char) (read : List Char)

/-- Blanks inside tags. -/
def isTagBlank (c : Char) : Bool :=
  c == ' ' || c == '\t' || c == '\n' || c == '\x0c' || c == '\r'

/-- Characters of names. -/
def isNameChar (c : Char) : Bool := c == '_' || c.isAlphanum

/-- The tokens of the rest of a tag. Strings are left as they are written. -/
def tokens? : Mode → List Char → Option (List Token)
  | .between, [] => some []
  | .word read, [] => some [.word (String.ofList read.reverse)]
  | .string _ _, [] => none
  | .escape _ _, [] => none
  | .between, c :: rest =>
    if isTagBlank c then tokens? .between rest
    else if c == '\'' || c == '"' then tokens? (.string c []) rest
    else if isNameChar c then
      if c.isDigit then none else tokens? (.word [c]) rest
    else do some (.symbol c :: (← tokens? .between rest))
  | .word read, c :: rest =>
    if isNameChar c then tokens? (.word (c :: read)) rest
    else
      let word := Token.word (String.ofList read.reverse)
      if isTagBlank c then do some (word :: (← tokens? .between rest))
      else if c == '\'' || c == '"' then do some (word :: (← tokens? (.string c []) rest))
      else do some (word :: .symbol c :: (← tokens? .between rest))
  | .string quote read, c :: rest =>
    if c == '\\' then tokens? (.escape quote (c :: read)) rest
    else if c == quote then do
      some (.string (String.ofList read.reverse) :: (← tokens? .between rest))
    else tokens? (.string quote (c :: read)) rest
  | .escape quote read, c :: rest => tokens? (.string quote (c :: read)) rest

/-! ### Strings -/

/-- The character that an escape of one character stands for. -/
def unescaped? (c : Char) : Option Char :=
  if c == '\\' || c == '"' || c == '\'' || c == '/' then some c
  else if c == 'n' then some '\n'
  else if c == 'r' then some '\r'
  else if c == 't' then some '\t'
  else if c == 'b' then some '\x08'
  else if c == 'f' then some '\x0c'
  else none

/-- The number that hexadecimal digits spell, at least one, after a plus sign or none. -/
def codeUnit? (digits : List Char) : Option Nat :=
  let digits := match digits with
    | '+' :: rest => rest
    | _ => digits
  if digits.isEmpty then none
  else digits.foldlM (fun n c => (Text.hexDigit? c).map fun d => n * 16 + d) 0

/-- Whether a number is the first half of a pair that stands for one character. -/
def isHighHalf (unit : Nat) : Bool := 0xD800 ≤ unit && unit < 0xDC00

/-- Whether a number is the second half of such a pair. -/
def isLowHalf (unit : Nat) : Bool := 0xDC00 ≤ unit && unit < 0xE000

/-- The character of a pair of halves. -/
def ofHalves (high low : Nat) : Char :=
  Char.ofNat (0x10000 + (high - 0xD800) * 0x400 + (low - 0xDC00))

/-- The text of a string as it is written. After `\u` there are four digits; a half has to be
followed by the other one. -/
def stringText? : List Char → Option (List Char)
  | [] => some []
  | '\\' :: 'u' :: a :: b :: c :: d :: rest => do
    let unit ← codeUnit? [a, b, c, d]
    if isHighHalf unit then
      match rest with
      | '\\' :: 'u' :: a :: b :: c :: d :: rest => do
        let low ← codeUnit? [a, b, c, d]
        if isLowHalf low then some (ofHalves unit low :: (← stringText? rest)) else none
      | _ => none
    else if isLowHalf unit then none
    else some (Char.ofNat unit :: (← stringText? rest))
  | '\\' :: c :: rest => do some ((← unescaped? c) :: (← stringText? rest))
  | c :: rest => do some (c :: (← stringText? rest))

/-! ### Values -/

/-- What a value stands for. -/
inductive Content where
  | undefined
  | absent
  | bool (value : Bool)
  | text (value : String)
deriving DecidableEq, Repr

namespace Content

/-- What is printed. -/
def toText : Content → String
  | undefined => ""
  | absent => "None"
  | bool true => "True"
  | bool false => "False"
  | text s => s

/-- Whether a condition on it holds. -/
def holds : Content → Bool
  | undefined => false
  | absent => false
  | bool b => b
  | text s => !s.isEmpty

end Content

/-- What a value begins with. -/
inductive Atom where
  | variable (name : String)
  | constant (content : Content)
deriving DecidableEq, Repr

/-- What a word stands for; nothing if it is no name. -/
def Atom.ofWord? (name : String) : Option Atom :=
  if name == "true" || name == "True" then some (.constant (.bool true))
  else if name == "false" || name == "False" then some (.constant (.bool false))
  else if name == "none" || name == "None" then some (.constant .absent)
  else if name == "not" then none
  else some (.variable name)

/-- An operand: an atom, the attributes taken of it and the filters applied to it. -/
structure Operand where
  atom : Atom
  attributes : List String
  filters : List String
deriving DecidableEq, Repr

/-- A value: operands to be joined. -/
abbrev Value := List Operand

/-- The filters at the end of an operand. -/
def filters? : List Token → Option (List String)
  | [] => some []
  | .symbol '|' :: .word name :: .symbol '(' :: .symbol ')' :: rest => do
    some (name :: (← filters? rest))
  | .symbol '|' :: .word name :: rest => do some (name :: (← filters? rest))
  | _ => none

/-- The attributes and filters of an operand. -/
def suffixes? : List Token → Option (List String × List String)
  | .symbol '.' :: .word name :: rest => do
    let (attributes, filters) ← suffixes? rest
    some (name :: attributes, filters)
  | tokens => do some ([], ← filters? tokens)

/-- Strings side by side, which are one text, and what is left. -/
def strings? : List Token → Option (List Char × List Token)
  | .string value :: rest => do
    let text ← stringText? value.toList
    let (others, rest) ← strings? rest
    some (text ++ others, rest)
  | rest => some ([], rest)

/-- An operand. -/
def operand? (tokens : List Token) : Option Operand :=
  match tokens with
  | .word name :: rest => do
    let (attributes, filters) ← suffixes? rest
    some ⟨← Atom.ofWord? name, attributes, filters⟩
  | .string _ :: _ => do
    let (text, rest) ← strings? tokens
    let (attributes, filters) ← suffixes? rest
    some ⟨.constant (.text (String.ofList text)), attributes, filters⟩
  | _ => none

/-- The operands between tildes. -/
def operandTokens : List Token → List (List Token)
  | [] => [[]]
  | t :: rest =>
    if t = .symbol '~' then [] :: operandTokens rest
    else match operandTokens rest with
      | first :: others => (t :: first) :: others
      | [] => [[t]]

/-- A value. -/
def value? (tokens : List Token) : Option Value := (operandTokens tokens).mapM operand?

/-! ### Pieces -/

/-- A piece of a template. -/
inductive Piece where
  | text (content : String)
  | output (value : Value)
  /-- What follows counts only if a value holds. -/
  | condition (value : Value)
  /-- What follows counts only if the condition fails. -/
  | otherwise
  | endCondition
deriving Repr

/-- The piece of a part; comments are none. -/
def piece? : RawPart → Option (Option Piece)
  | .text content => some (some (.text (String.ofList content)))
  | .tag .comment _ => some none
  | .tag .output content => do some (some (.output (← value? (← tokens? .between content))))
  | .tag .block content => do
    match ← tokens? .between content with
    | .word "if" :: value => some (some (.condition (← value? value)))
    | [.word "else"] => some (some .otherwise)
    | [.word "endif"] => some (some .endCondition)
    | _ => none

/-- The pieces of a template. -/
def pieces? (template : String) : Option (List Piece) := do
  let parts ← rawParts? (.text []) (withoutFinalLineEnd template.toList)
  let pieces ← (trimParts false parts).mapM piece?
  some (pieces.filterMap id)

/-! ### Rendering -/

/-- What an atom stands for. The variable `name` is the name, and no other variable is defined. -/
def Atom.content (name : String) : Atom → Content
  | .variable v => if v == "name" then .text name else .undefined
  | .constant c => c

/-- The attribute of something; what is not defined has none to ask for. -/
def Content.attribute? : Content → Option Content
  | undefined => none
  | _ => some undefined

/-- The text that one of two filters makes of a text. An engine may know others. -/
def filtered? (filter text : String) : Option String :=
  if filter == "upper" then some (uppercase text)
  else if filter == "lower" then some (lowercase text)
  else none

/-- What an operand stands for. -/
def Operand.content? (name : String) (o : Operand) : Option Content := do
  let content ← o.attributes.foldlM (fun c _ => c.attribute?) (o.atom.content name)
  o.filters.foldlM (fun c filter => (filtered? filter c.toText).map .text) content

/-- What a value stands for. Several operands are joined to a text. -/
def contentOf? (name : String) (v : Value) : Option Content := do
  match ← v.mapM (Operand.content? name) with
  | [content] => some content
  | contents => some (.text (String.join (contents.map Content.toText)))

/-- The text of pieces. Each open condition is known by whether it holds and whether its other
branch has begun. Nothing is printed, and no value looked at, where a condition fails. -/
def renderFrom? (name : String) (conditions : List (Bool × Bool)) : List Piece → Option String
  | [] => if conditions.isEmpty then some "" else none
  | piece :: rest =>
    let active := conditions.all Prod.fst
    match piece, conditions with
    | .text content, _ => do
      some ((if active then content else "") ++ (← renderFrom? name conditions rest))
    | .output value, _ => do
      let content ← if active then (contentOf? name value).map Content.toText else some ""
      some (content ++ (← renderFrom? name conditions rest))
    | .condition value, _ => do
      let holds ← if active then (contentOf? name value).map Content.holds else some false
      renderFrom? name ((holds, false) :: conditions) rest
    | .otherwise, (holds, false) :: outer => renderFrom? name ((!holds, true) :: outer) rest
    | .endCondition, _ :: outer => renderFrom? name outer rest
    | _, _ => none

/-- The text of a template for a name, if it is made of nothing but the above. -/
def render? (template name : String) : Option String := do
  renderFrom? name [] (← pieces? template)

/-! ### Names -/

/-- What renders templates. Its language may be larger than the one above. -/
class Engine where
  /-- The text of a template for a name. -/
  render? (template name : String) : Option String

instance : Engine := ⟨render?⟩

/-- Why a template gives no name. -/
inductive Fault where
  /-- The template cannot be rendered. -/
  | malformed
  /-- The text does not contain the name. -/
  | unreferenced
deriving DecidableEq, Repr

/-- The text of a template, which has to contain the name, so that different names give different
texts. -/
def nameFor [Engine] (template name : String) : Except Fault String :=
  match Engine.render? template name with
  | none => .error .malformed
  | some text =>
    if occursIn name.toList text.toList then .ok text else .error .unreferenced

end OpenApiTypes.Template
