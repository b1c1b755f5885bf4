/-
Media types.

* `Model.MediaKind`: how the content of a media type is sent;
* `Model.MediaKind.ofType?`: the kind of a media type, its parameters aside;
* `Model.selectContent?`: the entry of a `content` map that is used: the first of kind JSON, or
  the first of all.
-/
import OpenApiTypes.Entries
import OpenApiTypes.Text.Blank
import OpenApiTypes.Text.Split

namespace OpenApiTypes.Model

/-- How the content of a media type is sent. -/
inductive MediaKind where
  | json
  | formData
  | urlSearchParams
  | text
  | octetStream
deriving DecidableEq, Repr

namespace MediaKind

open OpenApiTypes.Text

/-- The name of a kind. -/
def name : MediaKind → String
  | json => "json"
  | formData => "form-data"
  | urlSearchParams => "url-search-params"
  | text => "text"
  | octetStream => "octet-stream"

/-- A media type without its parameters, in small ASCII letters. -/
def essence (mediaType : String) : String :=
  String.ofList ((trim (mediaType.toList.takeWhile (· != ';'))).map Char.toLower)

/-- The kind of a media type. -/
def ofType? (mediaType : String) : Option MediaKind :=
  let e := essence mediaType
  if e == "application/json" || endsWith "+json" e then some json
  else if e == "multipart/form-data" then some formData
  else if e == "application/x-www-form-urlencoded" then some urlSearchParams
  else if e == "application/octet-stream" then some octetStream
  else if startsWith "text/" e then some text
  else none

end MediaKind

/-- An entry of a `content` map that was selected. -/
structure Selected (α : Type) where
  mediaType : String
  kind : Option MediaKind
  content : α

/-- The entry of a `content` map that is used: the first of kind JSON, or the first of all. -/
def selectContent? {α : Type} (content : Entries String α) : Option (Selected α) :=
  let entries := content.map fun (mediaType, c) =>
    Selected.mk mediaType (MediaKind.ofType? mediaType) c
  match entries.find? fun e => e.kind == some .json with
  | some e => some e
  | none => entries.head?

end OpenApiTypes.Model
