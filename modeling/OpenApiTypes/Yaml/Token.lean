/-
The tokens of YAML text.

* `Yaml.Token`: signs, scalars, and the beginnings and ends of collections, which indentation
  tells;
* `Yaml.Scan`: what is known while a text is scanned: open collections by their columns, and what
  may turn out to be a key when a colon follows;
* `Yaml.Scan.next?`: takes up one token;
* `Yaml.scan?`: the tokens of a text.
-/
import OpenApiTypes.Yaml.Scalar
import OpenApiTypes.Yaml.Tag

namespace OpenApiTypes.Yaml

/-- A token. -/
inductive Token where
  | directive (d : Directive)
  | documentStart
  | documentEnd
  | blockSequence
  | blockMapping
  /-- The end of a collection that indentation ends. -/
  | blockEnd
  | flowSequence
  | flowSequenceEnd
  | flowMapping
  | flowMappingEnd
  /-- A hyphen before an item. -/
  | blockEntry
  /-- A comma between items. -/
  | flowEntry
  | key
  | value
  | aliasOf (name : String)
  | anchor (name : String)
  | tag (t : Tag)
  | scalar (text : String) (form : Form)
deriving DecidableEq, Repr

/-- What may turn out to be a key. -/
structure KeyCandidate where
  /-- How many tokens come before it. -/
  index : Nat
  place : Place
  /-- Whether nothing but a key can stand there. -/
  required : Bool

/-- How long a key may be. -/
def longestKey : Nat := 1024

/-- Whether a colon at a place can belong to the candidate: it has to stand on the same line, and
not too far away. -/
def KeyCandidate.reaches (c : KeyCandidate) (place : Place) : Bool :=
  c.place.line == place.line && place.offset ≤ c.place.offset + longestKey

/-- What is known while a text is scanned. -/
structure Scan where
  /-- The tokens so far, in reverse order, and their number. -/
  tokens : List Token := []
  count : Nat := 0
  /-- One more than the columns of the open block collections, the innermost first. -/
  margins : List Nat := []
  /-- The candidate of the collection outside all flow collections. -/
  outer : Option KeyCandidate := none
  /-- The candidates of the open flow collections, the innermost first. -/
  flows : List (Option KeyCandidate) := []
  /-- Whether a key may stand here. -/
  keyAllowed : Bool := true

namespace Scan

/-- Whether a flow collection is open. -/
def inFlow (s : Scan) : Bool := !s.flows.isEmpty

/-- One more than the column of the innermost block collection; zero if there is none. -/
def margin (s : Scan) : Nat := s.margins.headD 0

/-- Adds a token. -/
def emit (s : Scan) (t : Token) : Scan :=
  { s with tokens := t :: s.tokens, count := s.count + 1 }

/-- Adds a token after the first `index` ones. -/
def insertAt (s : Scan) (index : Nat) (t : Token) : Scan :=
  { s with tokens := s.tokens.insertIdx (s.count - index) t, count := s.count + 1 }

/-- Allows a key to stand here, or not. -/
def allowKey (s : Scan) (allowed : Bool) : Scan := { s with keyAllowed := allowed }

/-! ### Block collections -/

/-- How many of the innermost block collections stand to the right of a margin. -/
def deeper (margin : Nat) (margins : List Nat) : Nat :=
  (margins.takeWhile fun m => decide (margin < m)).length

/-- Ends the block collections that stand to the right of a margin. Inside flow collections,
indentation ends nothing. -/
def unroll (s : Scan) (margin : Nat) : Scan :=
  if s.inFlow then s
  else
    let n := deeper margin s.margins
    { s with
      tokens := List.replicate n .blockEnd ++ s.tokens
      count := s.count + n
      margins := s.margins.drop n }

/-- Begins a block collection at a column, unless the innermost one stands there already. The
token goes after the first `index` ones, or to the end. -/
def roll (s : Scan) (column : Nat) (index : Option Nat) (t : Token) : Scan :=
  if s.inFlow || column < s.margin then s
  else
    let s := { s with margins := (column + 1) :: s.margins }
    match index with
    | some index => s.insertAt index t
    | none => s.emit t

/-! ### Keys -/

/-- The candidate of the innermost collection. -/
def candidate (s : Scan) : Option KeyCandidate :=
  match s.flows with
  | c :: _ => c
  | [] => s.outer

/-- Sets the candidate of the innermost collection. -/
def setCandidate (s : Scan) (c : Option KeyCandidate) : Scan :=
  match s.flows with
  | _ :: rest => { s with flows := c :: rest }
  | [] => { s with outer := c }

/-- Gives up the candidate, which fails if nothing but a key could stand there. -/
def dropCandidate? (s : Scan) : Option Scan :=
  match s.candidate with
  | some ⟨_, _, true⟩ => none
  | _ => some (s.setCandidate none)

/-- Makes the token that begins here a candidate, if a key may stand here. -/
def saveCandidate? (s : Scan) (place : Place) : Option Scan :=
  if s.keyAllowed then do
    let required := !s.inFlow && s.margin == place.column + 1
    some ((← s.dropCandidate?).setCandidate (some ⟨s.count, place, required⟩))
  else some s

/-! ### Blanks and comments -/

/-- What is left after blanks, line ends and comments, and whether a key may stand there. -/
def skipBlanks (flow comment keyAllowed : Bool) : Cells → Bool × Cells
  | [] => (keyAllowed, [])
  | cell :: rest =>
    let c := cell.char
    if isBreak c then skipBlanks flow false (keyAllowed || !flow) rest
    else if c == endMark then (keyAllowed, cell :: rest)
    else if comment then skipBlanks flow true keyAllowed rest
    else if c == byteOrderMark && cell.place.column == 0 then
      skipBlanks flow false keyAllowed rest
    else if c == ' ' || (c == '\t' && (flow || !keyAllowed)) then
      skipBlanks flow false keyAllowed rest
    else if c == '#' then skipBlanks flow true keyAllowed rest
    else (keyAllowed, cell :: rest)

/-! ### Single tokens -/

/-- What is left of the text after a token, and what is known then. -/
abbrev Step := Scan × Cells

/-- A marker of documents, or a line with a directive. -/
def marker? (s : Scan) (t : Token) (rest : Cells) : Option Step := do
  some ((((← (s.unroll 0).dropCandidate?).allowKey false).emit t), rest)

/-- A line with a directive. -/
def directive? (s : Scan) (cells : Cells) : Option Step := do
  let (d, rest) ← Directive.ofCells? cells
  s.marker? (.directive d) rest

/-- The beginning of a flow collection. -/
def openFlow? (s : Scan) (t : Token) (cells : Cells) : Option Step := do
  let s ← s.saveCandidate? cells.place
  some (({ s with flows := none :: s.flows }.allowKey true).emit t, cells.drop 1)

/-- The end of a flow collection. -/
def closeFlow? (s : Scan) (t : Token) (cells : Cells) : Option Step := do
  let s ← s.dropCandidate?
  some (({ s with flows := s.flows.tail }.allowKey false).emit t, cells.drop 1)

/-- A comma. -/
def flowEntry? (s : Scan) (cells : Cells) : Option Step := do
  some (((← s.dropCandidate?).allowKey true).emit .flowEntry, cells.drop 1)

/-- A hyphen before an item. -/
def blockEntry? (s : Scan) (cells : Cells) : Option Step :=
  if !s.inFlow && !s.keyAllowed then none
  else do
    let s ← (s.roll cells.column none .blockSequence).dropCandidate?
    some ((s.allowKey true).emit .blockEntry, cells.drop 1)

/-- A question mark before a key. -/
def key? (s : Scan) (cells : Cells) : Option Step :=
  if !s.inFlow && !s.keyAllowed then none
  else do
    let s ← (s.roll cells.column none .blockMapping).dropCandidate?
    some ((s.allowKey (!s.inFlow)).emit .key, cells.drop 1)

/-- A colon after the candidate. -/
def valueOf (s : Scan) (c : KeyCandidate) (cells : Cells) : Step :=
  let s := (s.insertAt c.index .key).roll c.place.column (some c.index) .blockMapping
  (((s.setCandidate none).allowKey false).emit .value, cells.drop 1)

/-- A colon that stands by itself. -/
def loneValue? (s : Scan) (cells : Cells) : Option Step :=
  if !s.inFlow && !s.keyAllowed then none
  else
    let s := s.roll cells.column none .blockMapping
    some ((s.allowKey (!s.inFlow)).emit .value, cells.drop 1)

/-- A colon. -/
def value? (s : Scan) (cells : Cells) : Option Step :=
  match s.candidate with
  | none => s.loneValue? cells
  | some c =>
    if c.reaches cells.place then some (s.valueOf c cells)
    else if c.required then none
    else (s.setCandidate none).loneValue? cells

/-- Whether a character may follow a name. -/
def endsName (c : Char) : Bool :=
  isSpace c || c == '?' || c == ':' || c == ',' || c == ']' || c == '\x7d' || c == '%' || c == '@'
    || c == '`'

/-- The name after a sign, and what is left. -/
def name? (cells : Cells) : Option (String × Cells) :=
  let rest := cells.drop 1
  let name := (rest.takeWhile fun cell => isWordChar cell.char).map Cell.char
  let left : Cells := rest.dropWhile fun cell => isWordChar cell.char
  if name.isEmpty || !endsName left.first then none else some (String.ofList name, left)

/-- A name that stands for a node, or that a node is given. -/
def named? (s : Scan) (token : String → Token) (cells : Cells) : Option Step := do
  let s ← s.saveCandidate? cells.place
  let (name, left) ← name? cells
  some ((s.allowKey false).emit (token name), left)

/-- The type that a node is given. -/
def tag? (s : Scan) (cells : Cells) : Option Step := do
  let s ← s.saveCandidate? cells.place
  let (t, rest) ← Tag.ofCells? cells
  if isSpace rest.first || (s.inFlow && rest.first == ',') then
    some ((s.allowKey false).emit (.tag t), rest)
  else none

/-- A scalar of whole lines. -/
def blockScalar? (s : Scan) (literal : Bool) (cells : Cells) : Option Step := do
  let s ← s.dropCandidate?
  let (text, left) ← block? literal s.margin (cells.drop 1)
  let form : Form := if literal then .literal else .folded
  some ((s.allowKey true).emit (.scalar (String.ofList text) form), left)

/-- A scalar in quotes. -/
def quotedScalar? (s : Scan) (single : Bool) (cells : Cells) : Option Step := do
  let s ← s.saveCandidate? cells.place
  let (text, left) ← quoted? single (cells.drop 1)
  some ((s.allowKey false).emit (.scalar (String.ofList text) .quoted), left)

/-- A scalar without quotes. -/
def plainScalar? (s : Scan) (cells : Cells) : Option Step := do
  let s ← s.saveCandidate? cells.place
  let (text, broken, left) ← plain? s.inFlow s.margin cells
  some ((s.allowKey broken).emit (.scalar (String.ofList text) .plain), left)

/-- Signs that no scalar without quotes begins with. -/
def signs : List Char :=
  ['-', '?', ':', ',', '[', ']', '\x7b', '\x7d', '#', '&', '*', '!', '|', '>', '\'', '"', '%', '@',
    '`']

/-- Whether a scalar without quotes begins here. -/
def beginsPlain (s : Scan) (cells : Cells) : Bool :=
  let c := cells.first
  !(isSpace c || signs.contains c) || (c == '-' && !isBlank (cells.peek 1))
    || (!s.inFlow && (c == '?' || c == ':') && !cells.spaceAt 1)

/-- Takes up the token that begins here. -/
def token? (s : Scan) (cells : Cells) : Option Step :=
  let c := cells.first
  if cells.column == 0 && c == '%' then s.directive? cells
  else if cells.column == 0 && cells.threeAre '-' then s.marker? .documentStart (cells.drop 3)
  else if cells.column == 0 && cells.threeAre '.' then s.marker? .documentEnd (cells.drop 3)
  else if c == '[' then s.openFlow? .flowSequence cells
  else if c == '\x7b' then s.openFlow? .flowMapping cells
  else if c == ']' then s.closeFlow? .flowSequenceEnd cells
  else if c == '\x7d' then s.closeFlow? .flowMappingEnd cells
  else if c == ',' then s.flowEntry? cells
  else if c == '-' && cells.spaceAt 1 then s.blockEntry? cells
  else if c == '?' && (s.inFlow || cells.spaceAt 1) then s.key? cells
  else if c == ':' && (s.inFlow || cells.spaceAt 1) then s.value? cells
  else if c == '*' then s.named? .aliasOf cells
  else if c == '&' then s.named? .anchor cells
  else if c == '!' then s.tag? cells
  else if c == '|' && !s.inFlow then s.blockScalar? true cells
  else if c == '>' && !s.inFlow then s.blockScalar? false cells
  else if c == '\'' then s.quotedScalar? true cells
  else if c == '"' then s.quotedScalar? false cells
  else if s.beginsPlain cells then s.plainScalar? cells
  else none

/-! ### All tokens -/

/-- All tokens when the text has ended. -/
def finish? (s : Scan) : Option (List Token) := do
  some (← (s.unroll 0).dropCandidate?).tokens.reverse

/-- The tokens of the rest of a text. Every step takes up at least one character, so as many steps
are enough as there are cells. -/
def run? : Nat → Scan → Cells → Option (List Token)
  | 0, _, _ => none
  | steps + 1, s, cells =>
    let (keyAllowed, cells) := skipBlanks s.inFlow false s.keyAllowed cells
    let s := s.allowKey keyAllowed
    if cells.first == endMark then s.finish?
    else match (s.unroll (cells.column + 1)).token? cells with
      | some (s, cells) => run? steps s cells
      | none => none

end Scan

/-- The tokens of a text. -/
def scan? (text : String) : Option (List Token) := do
  let cells ← cells? text
  Scan.run? (cells.length + 1) {} cells

end OpenApiTypes.Yaml
