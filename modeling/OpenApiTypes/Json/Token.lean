/-
The tokens of JSON text.

* `Json.Token`: brackets, separators, strings and scalar values;
* `Json.Token.scan?`: the tokens of a text, read one character at a time;
* `Json.Token.Mode`: what the characters read so far have begun.
-/
import OpenApiTypes.Json.Value
import OpenApiTypes.Number.Numeral
import OpenApiTypes.Text.Hexadecimal

namespace OpenApiTypes.Json

/-- A token of JSON text. -/
inductive Token where
  | openArray
  | closeArray
  | openObject
  | closeObject
  | comma
  | colon
  | text (value : String)
  | scalar (value : Json)

namespace Token

/-- What the characters read so far have begun. Characters of an open token are kept in reverse
order. -/
inductive Mode where
  /-- Between tokens. -/
  | between
  /-- Inside a string. -/
  | text (read : List Char)
  /-- After a backslash in a string. -/
  | escape (read : List Char)
  /-- Inside the four digits of an escape; `high` is the first half of a surrogate pair. -/
  | hex (read : List Char) (high : Option Nat) (value count : Nat)
  /-- After the first half of a surrogate pair. -/
  | half (read : List Char) (high : Nat)
  /-- After the backslash that must begin the second half. -/
  | halfEscape (read : List Char) (high : Nat)
  /-- Inside a number. -/
  | number (read : List Char)
  /-- Inside a word. -/
  | word (read : List Char)

/-- The blanks of JSON text. -/
def isBlank (c : Char) : Bool := c == ' ' || c == '\n' || c == '\t' || c == '\r'

/-- Characters of numbers. -/
def isNumeric (c : Char) : Bool :=
  c.isDigit || c == '-' || c == '+' || c == '.' || c == 'e' || c == 'E'

/-- The value of a word. -/
def ofWord? (word : List Char) : Option Token :=
  if word == "true".toList then some (.scalar (.bool true))
  else if word == "false".toList then some (.scalar (.bool false))
  else if word == "null".toList then some (.scalar .null)
  else none

/-- The token that a character begins or is, between tokens. -/
def start? (c : Char) : Option (Mode × List Token) :=
  if isBlank c then some (.between, [])
  else if c == '[' then some (.between, [.openArray])
  else if c == ']' then some (.between, [.closeArray])
  else if c == '\x7b' then some (.between, [.openObject])
  else if c == '\x7d' then some (.between, [.closeObject])
  else if c == ',' then some (.between, [.comma])
  else if c == ':' then some (.between, [.colon])
  else if c == '"' then some (.text [], [])
  else if c.isDigit || c == '-' then some (.number [c], [])
  else if c.isAlpha then some (.word [c], [])
  else none

/-- The end of an open number or word. -/
def close? : Mode → Option (List Token)
  | .between => some []
  | .number read => do some [.scalar (.number (← Number.ofChars? read.reverse))]
  | .word read => do some [← ofWord? read.reverse]
  | _ => none

/-- Takes up the code unit of an escape: a character, or half of a surrogate pair. -/
def codeUnit? (read : List Char) (high : Option Nat) (unit : Nat) : Option Mode :=
  match high with
  | some h =>
    if 0xDC00 ≤ unit ∧ unit ≤ 0xDFFF then
      some (.text (Char.ofNat (0x10000 + (h - 0xD800) * 0x400 + (unit - 0xDC00)) :: read))
    else none
  | none =>
    if 0xD800 ≤ unit ∧ unit ≤ 0xDBFF then some (.half read unit)
    else if 0xDC00 ≤ unit ∧ unit ≤ 0xDFFF then none
    else some (.text (Char.ofNat unit :: read))

/-- The character that a single-letter escape stands for. -/
def escaped? (c : Char) : Option Char :=
  if c == '"' || c == '\\' || c == '/' then some c
  else if c == 'b' then some '\x08'
  else if c == 'f' then some '\x0c'
  else if c == 'n' then some '\n'
  else if c == 'r' then some '\r'
  else if c == 't' then some '\t'
  else none

/-- Takes up one character; gives the new mode and the tokens that are complete. -/
def step? (mode : Mode) (c : Char) : Option (Mode × List Token) :=
  match mode with
  | .between => start? c
  | .text read =>
    if c == '"' then some (.between, [.text (String.ofList read.reverse)])
    else if c == '\\' then some (.escape read, [])
    else if c.toNat < 0x20 then none
    else some (.text (c :: read), [])
  | .escape read =>
    if c == 'u' then some (.hex read none 0 0, [])
    else do some (.text ((← escaped? c) :: read), [])
  | .hex read high value count => do
    let value := value * 16 + (← Text.hexDigit? c)
    if count < 3 then some (.hex read high value (count + 1), [])
    else some (← codeUnit? read high value, [])
  | .half read high => if c == '\\' then some (.halfEscape read high, []) else none
  | .halfEscape read high => if c == 'u' then some (.hex read (some high) 0 0, []) else none
  | .number read =>
    if isNumeric c then some (.number (c :: read), [])
    else do
      let closed ← close? mode
      let (next, opened) ← start? c
      some (next, closed ++ opened)
  | .word read =>
    if c.isAlpha then some (.word (c :: read), [])
    else do
      let closed ← close? mode
      let (next, opened) ← start? c
      some (next, closed ++ opened)

/-- The tokens of the rest of a text, after those read so far, which are in reverse order. -/
def scanFrom? : Mode → List Token → List Char → Option (List Token)
  | mode, read, [] => (close? mode).map fun tokens => (tokens.reverse ++ read).reverse
  | mode, read, c :: cs =>
    match step? mode c with
    | some (next, tokens) => scanFrom? next (tokens.reverse ++ read) cs
    | none => none

/-- The tokens of a text. -/
def scan? (cs : List Char) : Option (List Token) := scanFrom? .between [] cs

end Token

end OpenApiTypes.Json
