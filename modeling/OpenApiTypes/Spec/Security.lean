/-
Security schemes as a document declares them.

* `Spec.KeyPlace`, `Spec.SecurityScheme`: the schemes. What a kind of scheme needs may be missing,
  so that an incomplete scheme can be reported;
* `Spec.SecurityScheme.ofJson?`, `Spec.SecurityScheme.toJson`: schemes read and written.
-/
import OpenApiTypes.Json.Record

namespace OpenApiTypes.Spec

/-- Where an API key is sent. -/
inductive KeyPlace where
  | query
  | header
  | cookie
deriving DecidableEq, Repr

/-- The names of the places. -/
def KeyPlace.name : KeyPlace → String
  | query => "query"
  | header => "header"
  | cookie => "cookie"

/-- The place of a name. -/
def KeyPlace.ofName? (s : String) : Option KeyPlace :=
  [query, header, cookie].find? fun p => p.name == s

/-- What distinguishes the kinds of schemes. -/
inductive SecurityKind where
  | apiKey (name : Option String) (place : Option KeyPlace)
  | http (scheme bearerFormat : Option String)
  | oauth2
  | openIdConnect (url : Option String)
  | mutualTls
deriving DecidableEq, Repr

/-- A security scheme. -/
structure SecurityScheme where
  kind : SecurityKind
  description : Option String
deriving DecidableEq, Repr

namespace SecurityScheme

open Json (record? optional? string? orNull)

/-- The fields of a scheme and the name of its kind. An array gives the kind first. -/
def tagged? : Json → Option (String × Json)
  | .obj members => do some (← (← Entries.get? members "type").string?, .obj members)
  | .arr (.str tag :: rest) => some (tag, .arr rest)
  | _ => none

/-- A scheme; its kind must be a known one. -/
def ofJson? (v : Json) : Option SecurityScheme := do
  let (tag, rest) ← tagged? v
  let text (fields : Entries String Json) (name : String) := optional? fields name string?
  match tag with
  | "apiKey" =>
    let fields ← record? ["name", "in", "description"] 3 rest
    let place ← optional? fields "in" (Json.lenientVariant? KeyPlace.ofName?)
    some ⟨.apiKey (← text fields "name") place, ← text fields "description"⟩
  | "http" =>
    let fields ← record? ["scheme", "bearerFormat", "description"] 3 rest
    some ⟨.http (← text fields "scheme") (← text fields "bearerFormat"),
      ← text fields "description"⟩
  | "oauth2" =>
    let fields ← record? ["description"] 1 rest
    some ⟨.oauth2, ← text fields "description"⟩
  | "openIdConnect" =>
    let fields ← record? ["openIdConnectUrl", "description"] 2 rest
    some ⟨.openIdConnect (← text fields "openIdConnectUrl"), ← text fields "description"⟩
  | "mutualTLS" =>
    let fields ← record? ["description"] 1 rest
    some ⟨.mutualTls, ← text fields "description"⟩
  | _ => none

/-- A scheme with all its members, those without a value as null. -/
def toJson (s : SecurityScheme) : Json :=
  let text (t : Option String) : Json := orNull (t.map .str)
  let description := ("description", text s.description)
  .obj <| match s.kind with
    | .apiKey name place => [("type", .str "apiKey"), ("name", text name),
      ("in", text (place.map KeyPlace.name)), description]
    | .http scheme bearerFormat => [("type", .str "http"), ("scheme", text scheme),
      ("bearerFormat", text bearerFormat), description]
    | .oauth2 => [("type", .str "oauth2"), description]
    | .openIdConnect url => [("type", .str "openIdConnect"), ("openIdConnectUrl", text url),
      description]
    | .mutualTls => [("type", .str "mutualTLS"), description]

end SecurityScheme

end OpenApiTypes.Spec
