/-
Pointers into a document, such as `#/components/schemas/Pet`.

* `Pointer.percentDecode`: a segment with its percent escapes decoded;
* `Pointer.escape`, `Pointer.unescape`: a key as a segment of a pointer, and back;
* `Pointer.segments?`: the keys a pointer leads through, or why it is none;
* `Pointer.lastName`: the key at the end of a pointer;
* `Pointer.schema`, `Pointer.schemaName?`: the pointer of a component schema, and its name.
-/
import OpenApiTypes.Text.Hexadecimal
import OpenApiTypes.Text.Split
import OpenApiTypes.Text.Utf8

namespace OpenApiTypes

/-- Why a reference leads nowhere. -/
inductive ReferenceError where
  /-- A chain of references comes back to where it has been. -/
  | circular (pointer : String)
  /-- The text is no pointer. -/
  | malformed (pointer : String)
  /-- The text points out of the document. -/
  | external (pointer : String)
  /-- The document has nothing at this segment. -/
  | missing (pointer segment : String)
  /-- What the pointer leads to is not what is wanted there. -/
  | mismatch (pointer : String)
deriving DecidableEq, Repr

/-- What is said of a reference that leads nowhere. -/
def ReferenceError.message : ReferenceError → String
  | circular pointer => "circular reference detected: " ++ pointer
  | malformed pointer => "invalid reference format: " ++ pointer
  | external pointer => "external references are not supported: " ++ pointer
  | missing pointer segment =>
    "reference target not found: " ++ pointer ++ " (missing segment `" ++ segment ++ "`)"
  | mismatch pointer => "reference " ++ pointer ++ " does not point at the expected object"

namespace Pointer

open OpenApiTypes.Text

/-! ### Segments -/

/-- The byte that two characters after a percent sign denote: two hexadecimal digits, or a plus
sign and one digit. -/
def escapedByte? (high low : UInt8) : Option UInt8 := do
  let units ← hexDigit? (Char.ofNat low.toNat)
  if high = 0x2B then some (UInt8.ofNat units)
  else some (UInt8.ofNat ((← hexDigit? (Char.ofNat high.toNat)) * 16 + units))

/-- Replaces percent escapes by the bytes they denote. -/
def decodeBytes : List UInt8 → List UInt8
  | [] => []
  | b :: high :: low :: rest =>
    if b = 0x25 then
      match escapedByte? high low with
      | some byte => byte :: decodeBytes rest
      | none => b :: decodeBytes (high :: low :: rest)
    else b :: decodeBytes (high :: low :: rest)
  | b :: rest => b :: decodeBytes rest

/-- A segment with its percent escapes decoded. -/
def percentDecode (segment : String) : String :=
  if segment.toList.contains '%' then
    String.ofList (Utf8.decodeLossy (decodeBytes (Utf8.encode segment.toList)))
  else segment

/-- A key as a segment: `~` and `/` are escaped. -/
def escape (key : String) : String := replace "/" "~1" (replace "~" "~0" key)

/-- The key of a segment. -/
def unescape (segment : String) : String :=
  replace "~0" "~" (replace "~1" "/" (percentDecode segment))

/-! ### Pointers -/

/-- The keys a pointer leads through. The pointer `#` leads through none; any other begins with
`#/`. A text without `#` at its beginning that looks like an address points out of the document. -/
def segments? (pointer : String) : Except ReferenceError (List String) :=
  match pointer.toList with
  | '#' :: [] => .ok []
  | '#' :: '/' :: path => .ok ((splitBy (· == '/') path).map fun s => unescape (String.ofList s))
  | '#' :: _ => .error (.malformed pointer)
  | cs =>
    if cs.contains '#' || occursIn "://".toList cs || cs.contains '.' then
      .error (.external pointer)
    else .error (.malformed pointer)

/-- The key at the end of a pointer. -/
def lastName (pointer : String) : String :=
  unescape ((splitOn '/' pointer).getLast?.getD pointer)

/-- What the pointers of component schemas begin with. -/
def schemaPrefix : String := "#/components/schemas/"

/-- The name of the component schema a pointer leads to. Pointers into a component are not
pointers to it. -/
def schemaName? (pointer : String) : Option String :=
  match stripPrefix? schemaPrefix.toList pointer.toList with
  | some (c :: rest) =>
    if (c :: rest).contains '/' then none else some (unescape (String.ofList (c :: rest)))
  | _ => none

/-- The pointer to a component schema. -/
def schema (name : String) : String := schemaPrefix ++ escape name

end Pointer

end OpenApiTypes
