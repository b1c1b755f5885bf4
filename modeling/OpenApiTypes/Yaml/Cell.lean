/-
YAML text as characters that know where they stand.

* `Yaml.Cell`: a character with its place in the text;
* `Yaml.cells?`: the cells of a text, followed by one that marks the end. Line ends are made
  uniform, and a mark of the byte order at the beginning does not count; a text that holds control
  characters has no cells;
* `Yaml.Cells.first`, `Yaml.Cells.place`: what comes next, and where;
* `Yaml.Cells.atMarker`: whether a document begins or ends here.
-/

namespace OpenApiTypes.Yaml

/-- A place in a text. -/
structure Place where
  line : Nat
  column : Nat
  offset : Nat
deriving DecidableEq, Repr

/-- A character with its place. -/
structure Cell where
  char : Char
  place : Place
deriving DecidableEq, Repr

/-- Stands at the end of a text; it cannot occur in it. -/
def endMark : Char := '\x00'

/-- The mark that may begin a line without being part of it. -/
def byteOrderMark : Char := Char.ofNat 0xFEFF

/-! ### Characters -/

/-- The end of a line. -/
def isBreak (c : Char) : Bool := c == '\n' || c.toNat == 0x2028 || c.toNat == 0x2029

/-- Blanks and tabs. -/
def isBlank (c : Char) : Bool := c == ' ' || c == '\t'

/-- Blanks, tabs, the end of a line and the end of the text. -/
def isSpace (c : Char) : Bool := isBlank c || isBreak c || c == endMark

/-- Letters and digits of ASCII, `_` and `-`. -/
def isWordChar (c : Char) : Bool := c.isAlphanum || c == '_' || c == '-'

/-- Whether a character may occur in a text. -/
def isAllowed (c : Char) : Bool :=
  let n := c.toNat
  n == 0x09 || n == 0x0A || n == 0x0D || (0x20 ≤ n && n ≤ 0x7E) || n == 0x85
    || (0xA0 ≤ n && n ≤ 0xFFFD) || 0x10000 ≤ n

/-- Makes line ends uniform. -/
def uniform : List Char → List Char
  | [] => []
  | '\r' :: '\n' :: rest => '\n' :: uniform rest
  | c :: rest => (if c == '\r' || c.toNat == 0x85 then '\n' else c) :: uniform rest

/-! ### Cells -/

/-- The place after a character. -/
def Place.after (p : Place) (c : Char) : Place :=
  if isBreak c then ⟨p.line + 1, 0, p.offset + 1⟩ else ⟨p.line, p.column + 1, p.offset + 1⟩

/-- The cells of a text from a place on. -/
def cellsFrom (p : Place) : List Char → List Cell
  | [] => [⟨endMark, p⟩]
  | c :: rest => ⟨c, p⟩ :: cellsFrom (p.after c) rest

/-- A text without the mark of the byte order that it may begin with. -/
def withoutMark : List Char → List Char
  | c :: rest => if c == byteOrderMark then rest else c :: rest
  | [] => []

/-- The cells of a text. -/
def cells? (text : String) : Option (List Cell) :=
  let cs := withoutMark text.toList
  if cs.all isAllowed then some (cellsFrom ⟨0, 0, 0⟩ (uniform cs)) else none

/-- What is left of a text. -/
abbrev Cells := List Cell

namespace Cells

/-- The character at a distance. -/
def peek (cells : Cells) (distance : Nat) : Char := ((cells[distance]?).map Cell.char).getD endMark

/-- The next character. -/
def first (cells : Cells) : Char := cells.peek 0

/-- The place of the next character. -/
def place (cells : Cells) : Place := (cells.head?.map Cell.place).getD ⟨0, 0, 0⟩

/-- The column of the next character. -/
def column (cells : Cells) : Nat := cells.place.column

/-- Whether the character at a distance separates words. -/
def spaceAt (cells : Cells) (distance : Nat) : Bool := isSpace (cells.peek distance)

/-- Whether three equal characters and a space follow. -/
def threeAre (cells : Cells) (c : Char) : Bool :=
  cells.peek 0 == c && cells.peek 1 == c && cells.peek 2 == c && cells.spaceAt 3

/-- Whether a document begins or ends here. -/
def atMarker (cells : Cells) : Bool :=
  cells.column == 0 && (cells.threeAre '-' || cells.threeAre '.')

end Cells

end OpenApiTypes.Yaml
