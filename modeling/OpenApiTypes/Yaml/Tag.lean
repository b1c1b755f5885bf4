/-
Tags, and the lines that explain them.

* `Yaml.Tag`: a tag as it is written, with a handle that stands for its beginning;
* `Yaml.Directive`: a line that begins with a percent sign: the version of the language, or what a
  handle stands for;
* `Yaml.Tag.ofCells?`, `Yaml.Directive.ofCells?`: what is written at a place, and what is left;
* `Yaml.handles?`: what the handles stand for after some directives. Nothing may be said twice;
* `Yaml.Tag.name?`: the full name of a tag.
-/
import OpenApiTypes.Entries
import OpenApiTypes.Text.Hexadecimal
import OpenApiTypes.Text.Utf8
import OpenApiTypes.Yaml.Cell

namespace OpenApiTypes.Yaml

/-- A tag as it is written. -/
structure Tag where
  /-- Stands for the beginning of the name; empty if nothing does. -/
  handle : String
  suffix : String
deriving DecidableEq, Repr

/-- A line that begins with a percent sign. -/
inductive Directive where
  | version (major minor : Nat)
  | handle (name meaning : String)
deriving DecidableEq, Repr

/-! ### Names in tags -/

/-- Characters of names. -/
def isNameChar (c : Char) : Bool := isWordChar c || ";/?:@&=+$.!~*'()%".toList.contains c

/-- Characters of names that are written in full. -/
def isFullNameChar (c : Char) : Bool := isNameChar c || c == ',' || c == '[' || c == ']'

/-- The bytes of a name, in which a percent sign stands before two digits. -/
def nameBytes? : List Char → Option (List UInt8)
  | [] => some []
  | '%' :: a :: b :: rest => do
    let byte := (← Text.hexDigit? a) * 16 + (← Text.hexDigit? b)
    return byte.toUInt8 :: (← nameBytes? rest)
  | '%' :: _ => none
  | c :: rest => (nameBytes? rest).map (Utf8.encode [c] ++ ·)

/-- The name that some characters spell. -/
def spelled? (cs : List Char) : Option String := do
  return String.ofList (← Utf8.decode? (← nameBytes? cs))

/-- Splits off the characters that satisfy a condition. -/
def Cells.span (cells : Cells) (belongs : Char → Bool) : List Char × Cells :=
  ((cells.takeWhile fun cell => belongs cell.char).map Cell.char,
    cells.dropWhile fun cell => belongs cell.char)

/-- Exclamation marks with a word between them, or one with a word after it. -/
def handleAt (cells : Cells) : List Char × Cells :=
  let (word, rest) := Cells.span (cells.drop 1) isWordChar
  if rest.first == '!' then ('!' :: word ++ ['!'], rest.drop 1) else ('!' :: word, rest)

/-- Whether a handle stands between exclamation marks. -/
def isEnclosed (handle : List Char) : Bool :=
  decide (1 < handle.length) && handle.getLast? == some '!'

namespace Tag

/-- The tag that is written at a place, and what is left. -/
def ofCells? (cells : Cells) : Option (Tag × Cells) :=
  if cells.peek 1 == '<' then do
    let (name, rest) := Cells.span (cells.drop 2) isFullNameChar
    if name.isEmpty || rest.first != '>' then none else some (⟨"", ← spelled? name⟩, rest.drop 1)
  else do
    let (handle, rest) := handleAt cells
    let (name, rest) := Cells.span rest isNameChar
    let suffix ← spelled? name
    if isEnclosed handle then
      if name.isEmpty then none else some (⟨String.ofList handle, suffix⟩, rest)
    else
      let suffix := String.ofList (handle.drop 1) ++ suffix
      some (if suffix.isEmpty then ⟨"", "!"⟩ else ⟨"!", suffix⟩, rest)

end Tag

/-! ### Directives -/

namespace Directive

/-- What is left after blanks. -/
def afterBlanks (cells : Cells) : Cells := cells.dropWhile fun cell => isBlank cell.char

/-- What is left at the end of a line on which nothing but a comment may follow. -/
def lineEnd? (cells : Cells) : Option Cells :=
  let rest := afterBlanks cells
  let atEnd := fun (c : Char) => isBreak c || c == endMark
  let rest : Cells :=
    if rest.first == '#' then rest.dropWhile fun cell => !atEnd cell.char else rest
  if atEnd rest.first then some rest else none

/-- A number of up to nine digits. -/
def number? (cells : Cells) : Option (Nat × Cells) :=
  let (digits, rest) := cells.span Char.isDigit
  if digits.isEmpty || 9 < digits.length then none
  else some (digits.foldl (fun n c => n * 10 + (c.toNat - '0'.toNat)) 0, rest)

/-- The version of the language. -/
def version? (cells : Cells) : Option (Directive × Cells) := do
  let (major, rest) ← number? (afterBlanks cells)
  if rest.first != '.' then none
  else
    let (minor, rest) ← number? (rest.drop 1)
    some (version major minor, rest)

/-- What a handle stands for. -/
def handle? (cells : Cells) : Option (Directive × Cells) := do
  let cells := afterBlanks cells
  if cells.first != '!' then none
  else
    let (name, rest) := handleAt cells
    if !(isEnclosed name || name == ['!']) || !isBlank rest.first then none
    else
      let (meaning, rest) := Cells.span (afterBlanks rest) isFullNameChar
      if meaning.isEmpty || !isSpace rest.first then none
      else some (handle (String.ofList name) (← spelled? meaning), rest)

/-- The directive of a line, and what is left at its end. -/
def ofCells? (cells : Cells) : Option (Directive × Cells) := do
  let (word, rest) := Cells.span (cells.drop 1) isWordChar
  if !isSpace rest.first then none
  let (directive, rest) ← match String.ofList word with
    | "YAML" => version? rest
    | "TAG" => handle? rest
    | _ => none
  some (directive, ← lineEnd? rest)

end Directive

/-! ### Meanings -/

/-- What the full names of standard tags begin with. -/
def standardTags : String := "tag:yaml.org,2002:"

/-- What handles stand for at the start. -/
def standardHandles : Entries String String := [("!", "!"), ("!!", standardTags)]

/-- Whether a version is one that can be read. -/
def supportsVersion (major minor : Nat) : Bool := major == 1 && (minor == 1 || minor == 2)

/-- What handles stand for after directives. `versioned` tells whether there has been a version. -/
def handlesAfter? (versioned : Bool) (declared : Entries String String) :
    List Directive → Option (Entries String String)
  | [] => some (declared ++ standardHandles)
  | .version major minor :: rest =>
    if versioned || !supportsVersion major minor then none else handlesAfter? true declared rest
  | .handle name meaning :: rest =>
    if declared.has name then none else handlesAfter? versioned (declared.put name meaning) rest

/-- What the handles stand for after some directives. -/
def handles? (directives : List Directive) : Option (Entries String String) :=
  handlesAfter? false [] directives

/-- The full name of a tag. -/
def Tag.name? (handles : Entries String String) (t : Tag) : Option String :=
  if t.handle.isEmpty then some t.suffix
  else (handles.get? t.handle).map fun meaning => meaning ++ t.suffix

end OpenApiTypes.Yaml
