/-
Documents.

* `Spec.Document`: the parts of a document that are looked at;
* `Spec.Document.ofJson?`, `Spec.Document.toJson`: documents read and written;
* `Spec.Source`: a document together with the tree it was read from, in which references are
  followed;
* `Spec.Source.ofTree`: the document of a tree, or why there is none. The version is looked at
  first.
-/
import OpenApiTypes.Spec.OperationReader
import OpenApiTypes.Spec.OperationWriter
import OpenApiTypes.Spec.Security
import OpenApiTypes.Text.Split

namespace OpenApiTypes.Spec

open Json (record? required? optional? defaulted? list? entries? string? memberIf)

/-- What a document says about its API. -/
structure Info where
  title : String
  version : String
  description : Option String
deriving DecidableEq, Repr

/-- Definitions that other places refer to by name. -/
structure Components where
  schemas : Entries String (Position Schema) := []
  parameters : Entries String (RefOr Parameter) := []
  requestBodies : Entries String (RefOr RequestBody) := []
  responses : Entries String (RefOr Response) := []
  securitySchemes : Entries String SecurityScheme := []
deriving Repr

/-- The parts of a document that are looked at. -/
structure Document where
  openapi : String
  info : Info
  servers : List Server
  paths : Entries String PathItem
  /-- Requests that the API sends to subscribers. -/
  webhooks : Entries String PathItem
  components : Option Components
  /-- The requirements of operations that declare none. -/
  security : Option (List Requirement)
deriving Repr

/-! ### Reading and writing -/

/-- What a document says about its API. -/
def Info.ofJson? (v : Json) : Option Info := do
  let fields ← record? ["title", "version", "description"] 3 v
  some {
    title := ← required? fields "title" string?
    version := ← required? fields "version" string?
    description := ← optional? fields "description" string? }

/-- What a document says about its API. -/
def Info.toJson (i : Info) : Json :=
  .obj ([("title", .str i.title), ("version", .str i.version)]
    ++ memberIf "description" (i.description.map .str))

/-- Named definitions. -/
def Components.ofJson? (v : Json) : Option Components := do
  let fields ← record? ["schemas", "parameters", "requestBodies", "responses",
    "securitySchemes"] 0 v
  some {
    schemas := ← defaulted? fields "schemas" [] (entries? Position.ofJson?)
    parameters := ← defaulted? fields "parameters" [] (entries? (RefOr.ofJson? Parameter.ofJson?))
    requestBodies := ← defaulted? fields "requestBodies" []
      (entries? (RefOr.ofJson? RequestBody.ofJson?))
    responses := ← defaulted? fields "responses" [] (entries? (RefOr.ofJson? Response.ofJson?))
    securitySchemes := ← defaulted? fields "securitySchemes" [] (entries? SecurityScheme.ofJson?) }

/-- Named definitions. -/
def Components.toJson (c : Components) : Json :=
  .obj (entriesMember "schemas" (Position.entriesToMembers c.schemas)
    ++ entriesMember "parameters" (c.parameters.map fun (n, p) => (n, p.toJson Parameter.toJson))
    ++ entriesMember "requestBodies"
      (c.requestBodies.map fun (n, b) => (n, b.toJson RequestBody.toJson))
    ++ entriesMember "responses" (c.responses.map fun (n, r) => (n, r.toJson Response.toJson))
    ++ entriesMember "securitySchemes" (c.securitySchemes.map fun (n, s) => (n, s.toJson)))

/-- A document. -/
def Document.ofJson? (v : Json) : Option Document := do
  let fields ← record? ["openapi", "info", "servers", "paths", "webhooks", "components",
    "security"] 7 v
  some {
    openapi := ← required? fields "openapi" string?
    info := ← required? fields "info" Info.ofJson?
    servers := ← servers? fields
    paths := ← defaulted? fields "paths" [] (entries? PathItem.ofJson?)
    webhooks := ← defaulted? fields "webhooks" [] (entries? PathItem.ofJson?)
    components := ← optional? fields "components" Components.ofJson?
    security := ← optional? fields "security" requirements? }

/-- A document. -/
def Document.toJson (d : Document) : Json :=
  .obj ([("openapi", .str d.openapi), ("info", d.info.toJson)]
    ++ listMember "servers" (d.servers.map serverToJson)
    ++ entriesMember "paths" (d.paths.map fun (key, item) => (key, item.toJson))
    ++ entriesMember "webhooks" (d.webhooks.map fun (key, item) => (key, item.toJson))
    ++ memberIf "components" (d.components.map Components.toJson)
    ++ memberIf "security" (d.security.map requirementsToJson))

/-! ### Documents with their trees -/

/-- Why there is no document. -/
inductive ReadError where
  /-- The text is no YAML. -/
  | yaml
  /-- The text is no JSON. -/
  | json
  /-- The tree has not the shape of a document. -/
  | document
  /-- The version is none that is known. -/
  | unsupportedVersion (version : String)
  /-- A field is missing without which nothing can be said. -/
  | missingField (name : String)
deriving DecidableEq, Repr

/-- A document together with the tree it was read from. -/
structure Source where
  tree : Json
  document : Document

namespace Source

/-- The versions that are known, by their beginnings. -/
def supportedVersions : List String := ["3.0.", "3.1.", "3.2."]

/-- Whether a version is known. -/
def supports (version : String) : Bool :=
  supportedVersions.any fun beginning => Text.startsWith beginning version

/-- The document of a tree, or why there is none. -/
def ofTree (tree : Json) : Except ReadError Source :=
  match (tree.member? "openapi").bind Json.string? with
  | none => .error (.missingField "openapi")
  | some version =>
    if supports version then
      match Document.ofJson? tree with
      | some document => .ok ⟨tree, document⟩
      | none => .error .document
    else .error (.unsupportedVersion version)

end Source

end OpenApiTypes.Spec
