/-
JSON text read as a value.

* `Json.Frame`: a container that is still open;
* `Json.Awaiting`: what may come next;
* `Json.ofTokens?`: the value of a list of tokens;
* `Json.ofText?`: the value of a text. Containers nest at most 127 deep, and a repeated key of an
  object keeps its first place and its last value.
-/
import OpenApiTypes.Json.Token

namespace OpenApiTypes.Json

/-- A container that is still open, with the values it holds so far. -/
inductive Frame where
  /-- An array; its items in reverse order. -/
  | array (items : List Json)
  /-- An object, and the key whose value is being read. -/
  | object (members : Entries String Json) (key : String)

/-- What may come next. -/
inductive Awaiting where
  /-- A value. -/
  | value
  /-- A value, or the end of the array just opened. -/
  | firstItem
  /-- A key of the object that holds these members; the end too, if nothing was read yet. -/
  | key (members : Entries String Json) (mayClose : Bool)
  /-- The colon after a key. -/
  | colon (members : Entries String Json) (key : String)
  /-- A separator or the end, after this value. -/
  | separator (last : Json)

/-- How deep containers may nest. -/
def maxNesting : Nat := 127

/-- Takes up one token; no more than `limit` containers may be open at once. -/
def advance? (limit : Nat) (frames : List Frame) (awaiting : Awaiting) (token : Token) :
    Option (List Frame × Awaiting) :=
  match awaiting, token with
  | .value, .scalar v => some (frames, .separator v)
  | .value, .text s => some (frames, .separator (.str s))
  | .value, .openArray =>
    if frames.length < limit then some (.array [] :: frames, .firstItem) else none
  | .value, .openObject =>
    if frames.length < limit then some (.object [] "" :: frames, .key [] true) else none
  | .firstItem, .scalar v => some (frames, .separator v)
  | .firstItem, .text s => some (frames, .separator (.str s))
  | .firstItem, .openArray =>
    if frames.length < limit then some (.array [] :: frames, .firstItem) else none
  | .firstItem, .openObject =>
    if frames.length < limit then some (.object [] "" :: frames, .key [] true) else none
  | .firstItem, .closeArray =>
    match frames with
    | .array _ :: rest => some (rest, .separator (.arr []))
    | _ => none
  | .key members _, .text s => some (frames, .colon members s)
  | .key members true, .closeObject => some (frames.tail, .separator (.obj members))
  | .colon members key, .colon =>
    match frames with
    | .object _ _ :: rest => some (.object members key :: rest, .value)
    | _ => none
  | .separator last, .comma =>
    match frames with
    | .array items :: rest => some (.array (last :: items) :: rest, .value)
    | .object members key :: _ => some (frames, .key (members.put key last) false)
    | [] => none
  | .separator last, .closeArray =>
    match frames with
    | .array items :: rest => some (rest, .separator (.arr (last :: items).reverse))
    | _ => none
  | .separator last, .closeObject =>
    match frames with
    | .object members key :: rest => some (rest, .separator (.obj (members.put key last)))
    | _ => none
  | _, _ => none

/-- The value that the remaining tokens complete. -/
def completeFrom? (limit : Nat) : List Frame → Awaiting → List Token → Option Json
  | [], .separator v, [] => some v
  | _, _, [] => none
  | frames, awaiting, token :: tokens =>
    match advance? limit frames awaiting token with
    | some (frames, awaiting) => completeFrom? limit frames awaiting tokens
    | none => none

/-- The value of a list of tokens. -/
def ofTokens? (limit : Nat) (tokens : List Token) : Option Json :=
  completeFrom? limit [] .value tokens

/-- The value of a text whose containers nest at most `limit` deep. -/
def ofTextWithin? (limit : Nat) (text : String) : Option Json := do
  ofTokens? limit (← Token.scan? text.toList)

/-- The value of a text. -/
def ofText? (text : String) : Option Json := ofTextWithin? maxNesting text

end OpenApiTypes.Json
