/-
The texts of scalars.

* `Yaml.Form`: how a scalar is written;
* `Yaml.Gap`: blanks and line ends between two words, and what they count for;
* `Yaml.plain?`: a scalar without quotes;
* `Yaml.quoted?`: a scalar in quotes;
* `Yaml.block?`: a scalar of whole lines.
-/
import OpenApiTypes.Text.Hexadecimal
import OpenApiTypes.Yaml.Cell

namespace OpenApiTypes.Yaml

/-- How a scalar is written. -/
inductive Form where
  | plain
  /-- In quotes of either kind. -/
  | quoted
  /-- In whole lines that are kept. -/
  | literal
  /-- In whole lines that are joined. -/
  | folded
deriving DecidableEq, Repr

/-! ### Gaps -/

/-- Blanks and line ends between two words. -/
structure Gap where
  /-- Blanks on a single line. -/
  blanks : List Char := []
  /-- Whether there was a line end. -/
  broken : Bool := false
  /-- The first line end, unless it was escaped. -/
  first : Option Char := none
  /-- The line ends after the first. -/
  others : List Char := []

namespace Gap

/-- The gap after an escaped line end. -/
def escaped : Gap := { broken := true }

/-- Whether there is anything between the words. -/
def isEmpty (g : Gap) : Bool := !g.broken && g.blanks.isEmpty

/-- Takes up one more blank or line end. Blanks next to line ends do not count. -/
def push (g : Gap) (c : Char) : Gap :=
  if isBreak c then
    if g.broken then { g with others := g.others ++ [c] }
    else { broken := true, first := some c }
  else if g.broken then g
  else { g with blanks := g.blanks ++ [c] }

/-- What a gap counts for. A single line feed is a blank, and of several the first is left out. -/
def text (g : Gap) : List Char :=
  if !g.broken then g.blanks
  else match g.first with
    | some '\n' => if g.others.isEmpty then [' '] else g.others
    | first => first.toList ++ g.others

end Gap

/-! ### Without quotes -/

/-- Whether a scalar without quotes ends before the next character. -/
def endsPlain (flow : Bool) (cells : Cells) : Bool :=
  let c := cells.first
  c == endMark || (c == ':' && cells.spaceAt 1)
    || (flow && (c == ',' || c == '[' || c == ']' || c == '\x7b' || c == '\x7d'))

/-- Whether a colon stands directly before a character that has a meaning of its own. -/
def clashes (flow : Bool) (cells : Cells) : Bool :=
  let next := cells.peek 1
  flow && cells.first == ':' && (next == ',' || next == '?' || next == '[' || next == ']'
    || next == '\x7b' || next == '\x7d')

/-- Whether a scalar without quotes ends before the next word. -/
def endsBeforeWord (flow : Bool) (margin : Nat) (gap : Gap) (cells : Cells) : Bool :=
  cells.first == '#' || cells.atMarker || (!gap.isEmpty && !flow && cells.column < margin)

/-- The text of a scalar without quotes, which is in reverse order as far as it is read; whether a
line end follows it; and what is left. -/
def plainFrom? (flow : Bool) (margin : Nat) (read : List Char) (gap : Gap) :
    Cells → Option (List Char × Bool × Cells)
  | [] => some (read.reverse, gap.broken, [])
  | cell :: rest =>
    let c := cell.char
    let stop := some (read.reverse, gap.broken, cell :: rest)
    if isBlank c || isBreak c then
      if gap.broken && c == '\t' && cell.place.column < margin then none
      else plainFrom? flow margin read (gap.push c) rest
    else if (read.isEmpty || !gap.isEmpty) && endsBeforeWord flow margin gap (cell :: rest) then
      stop
    else if clashes flow (cell :: rest) then none
    else if endsPlain flow (cell :: rest) then stop
    else plainFrom? flow margin (c :: (gap.text.reverse ++ read)) {} rest

/-- The text of a scalar without quotes that continues on lines indented by `margin` at least. -/
def plain? (flow : Bool) (margin : Nat) (cells : Cells) : Option (List Char × Bool × Cells) :=
  plainFrom? flow margin [] {} cells

/-! ### In quotes -/

/-- What the characters read so far have begun, in quotes. -/
inductive QuoteMode where
  | text
  /-- After a single quote, which may be the last or the first of two. -/
  | quote
  /-- After a backslash. -/
  | escape
  /-- Inside an escape that takes so many more digits. -/
  | digits (left value : Nat)

/-- What the character after a backslash stands for. -/
def escapedChar? (c : Char) : Option Char :=
  if c == '0' then some '\x00'
  else if c == 'a' then some '\x07'
  else if c == 'b' then some '\x08'
  else if c == 't' || c == '\t' then some '\t'
  else if c == 'n' then some '\n'
  else if c == 'v' then some '\x0b'
  else if c == 'f' then some '\x0c'
  else if c == 'r' then some '\r'
  else if c == 'e' then some '\x1b'
  else if c == ' ' || c == '"' || c == '/' || c == '\\' then some c
  else if c == 'N' then some (Char.ofNat 0x85)
  else if c == '_' then some (Char.ofNat 0xA0)
  else if c == 'L' then some (Char.ofNat 0x2028)
  else if c == 'P' then some (Char.ofNat 0x2029)
  else none

/-- How many hexadecimal digits follow the character after a backslash. -/
def escapeLength? (c : Char) : Option Nat :=
  if c == 'x' then some 2
  else if c == 'u' then some 4
  else if c == 'U' then some 8
  else none

/-- The character of a code point. -/
def charOf? (n : Nat) : Option Char :=
  if n < 0xD800 ∨ (0xDFFF < n ∧ n ≤ 0x10FFFF) then some (Char.ofNat n) else none

/-- The text of a scalar in quotes after the opening quote, and what is left after the closing
one. -/
def quotedFrom? (single : Bool) (mode : QuoteMode) (read : List Char) (gap : Gap) :
    Cells → Option (List Char × Cells)
  | [] => none
  | cell :: rest =>
    let c := cell.char
    let joined := gap.text.reverse ++ read
    match mode with
    | .quote =>
      if c == '\'' then quotedFrom? single .text ('\'' :: read) {} rest
      else some (read.reverse, cell :: rest)
    | .escape =>
      if isBreak c then quotedFrom? single .text read .escaped rest
      else match escapeLength? c with
        | some length => quotedFrom? single (.digits length 0) read {} rest
        | none => match escapedChar? c with
          | some d => quotedFrom? single .text (d :: read) {} rest
          | none => none
    | .digits left value =>
      match Text.hexDigit? c with
      | none => none
      | some d =>
        let value := value * 16 + d
        if left ≤ 1 then match charOf? value with
          | some d => quotedFrom? single .text (d :: read) {} rest
          | none => none
        else quotedFrom? single (.digits (left - 1) value) read {} rest
    | .text =>
      if isBlank c || isBreak c then quotedFrom? single .text read (gap.push c) rest
      else if c == endMark || Cells.atMarker (cell :: rest) then none
      else if single && c == '\'' then quotedFrom? single .quote joined {} rest
      else if !single && c == '"' then some (joined.reverse, rest)
      else if !single && c == '\\' then quotedFrom? single .escape joined {} rest
      else quotedFrom? single .text (c :: joined) {} rest

/-- The text of a scalar in quotes after the opening quote. -/
def quoted? (single : Bool) (cells : Cells) : Option (List Char × Cells) :=
  quotedFrom? single .text [] {} cells

/-! ### Whole lines -/

/-- What becomes of the line ends at the end of a scalar. -/
inductive Chomping where
  /-- None is kept. -/
  | strip
  /-- One is kept. -/
  | clip
  /-- All are kept. -/
  | keep
deriving DecidableEq, Repr

/-- The sign for a chomping. -/
def chomping? (c : Char) : Option Chomping :=
  if c == '+' then some .keep else if c == '-' then some .strip else none

/-- The indentation that a digit asks for. -/
def increment? (c : Char) : Option Nat :=
  if '1' ≤ c ∧ c ≤ '9' then some (c.toNat - '0'.toNat) else none

/-- The chomping and the indentation that are asked for, in either order, and what is left. -/
def blockHeader (cells : Cells) : Chomping × Option Nat × Cells :=
  match chomping? cells.first, increment? cells.first with
  | some chomping, _ =>
    match increment? (cells.peek 1) with
    | some n => (chomping, some n, cells.drop 2)
    | none => (chomping, none, cells.drop 1)
  | none, some n =>
    match chomping? (cells.peek 1) with
    | some chomping => (chomping, some n, cells.drop 2)
    | none => (.clip, some n, cells.drop 1)
  | none, none => (.clip, none, cells)

/-- What is left at the end of a line that holds nothing but blanks and a comment. -/
def restOfLine? (comment : Bool) : Cells → Option Cells
  | [] => some []
  | cell :: rest =>
    let c := cell.char
    if isBreak c then some rest
    else if c == endMark then some (cell :: rest)
    else if comment then restOfLine? true rest
    else if isBlank c then restOfLine? false rest
    else if c == '#' then restOfLine? true rest
    else none

/-- The lines of a block scalar that have been read. -/
structure BlockState where
  /-- The indentation of the lines, once it is known. -/
  indent : Option Nat
  /-- The largest column reached while it is not known. -/
  widest : Nat := 0
  text : List Char := []
  /-- The end of the last line. -/
  lineEnd : List Char := []
  /-- The ends of empty lines after it. -/
  emptyLines : List Char := []
  /-- Whether the last line began with a blank. -/
  indented : Bool := false
  /-- Whether a line is being read. -/
  inLine : Bool := false

namespace BlockState

/-- What comes between the last line and one that begins with a character. Lines are folded into
one unless one of them begins with a blank. -/
def between (s : BlockState) (literal : Bool) (c : Char) : List Char :=
  if !literal && s.lineEnd == ['\n'] && !s.indented && !isBlank c then
    if s.emptyLines.isEmpty then [' '] else s.emptyLines
  else s.lineEnd ++ s.emptyLines

/-- The text of the scalar. -/
def finish (s : BlockState) (chomping : Chomping) : List Char :=
  s.text.reverse ++ match chomping with
    | .strip => []
    | .clip => s.lineEnd
    | .keep => s.lineEnd ++ s.emptyLines

/-- Begins a line with a character. -/
def startLine (s : BlockState) (literal : Bool) (indent : Nat) (c : Char) : BlockState :=
  { indent := some indent
    text := c :: ((s.between literal c).reverse ++ s.text)
    indented := isBlank c
    inLine := true }

/-- The indentation of the lines: as far as the first goes, but at least `least`. -/
def settle (s : BlockState) (least column : Nat) : Nat :=
  s.indent.getD (max (max (max s.widest column) least) 1)

end BlockState

/-- The rest of a block scalar. -/
def blockFrom? (literal : Bool) (chomping : Chomping) (least : Nat) (s : BlockState) :
    Cells → Option (List Char × Cells)
  | [] => some (s.finish chomping, [])
  | cell :: rest =>
    let c := cell.char
    let column := cell.place.column
    let stop := fun (s : BlockState) => some (s.finish chomping, cell :: rest)
    if s.inLine then
      if isBreak c then
        blockFrom? literal chomping least { s with lineEnd := [c], inLine := false } rest
      else if c == endMark then stop s
      else blockFrom? literal chomping least { s with text := c :: s.text } rest
    else
      let inMargin := match s.indent with
        | some indent => decide (column < indent)
        | none => true
      if inMargin && c == ' ' then blockFrom? literal chomping least s rest
      else if inMargin && c == '\t' then none
      else if isBreak c then
        blockFrom? literal chomping least
          { s with widest := max s.widest column, emptyLines := s.emptyLines ++ [c] } rest
      else
        let indent := s.settle least column
        if column == indent && c != endMark then
          blockFrom? literal chomping least (s.startLine literal indent c) rest
        else stop s

/-- The text of a block scalar after its first sign, below something that is indented by one less
than `margin`. -/
def block? (literal : Bool) (margin : Nat) (cells : Cells) : Option (List Char × Cells) := do
  let (chomping, increment, rest) := blockHeader cells
  let lines ← restOfLine? false rest
  let indent := increment.map fun n => margin - 1 + n
  blockFrom? literal chomping margin { indent } lines

end OpenApiTypes.Yaml
