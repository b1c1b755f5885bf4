/-
Paths, operations and what they exchange, read from JSON.

* `Spec.Parameter.ofJson?`, `Spec.RequestBody.ofJson?`, `Spec.Response.ofJson?`,
  `Spec.Operation.ofJson?`, `Spec.PathItem.ofJson?`.
-/
import OpenApiTypes.Spec.Operation
import OpenApiTypes.Spec.SchemaReader

namespace OpenApiTypes.Spec

open Json (record? required? optional? defaulted? list? entries? string? bool?)

/-- A server. -/
def server? (v : Json) : Option Server := do
  let fields ← record? ["url", "description"] 2 v
  some {
    url := ← required? fields "url" string?
    description := ← optional? fields "description" string? }

/-- One entry of a `content` map. -/
def MediaType.ofJson? (v : Json) : Option MediaType := do
  let fields ← record? ["schema", "example"] 0 v
  some {
    schema := ← optional? fields "schema" Position.ofJson?
    example_ := ← optional? fields "example" Json.any? }

/-- A `content` map. -/
def content? (fields : Entries String Json) : Option (Entries String MediaType) :=
  defaulted? fields "content" [] (entries? MediaType.ofJson?)

/-- A parameter. -/
def Parameter.ofJson? (v : Json) : Option Parameter := do
  let fields ← record? ["name", "in", "description", "required", "deprecated", "schema",
    "content", "style", "explode", "allowReserved"] 9 v
  some {
    name := ← required? fields "name" string?
    place := ← required? fields "in" (Json.variant? ParameterPlace.ofName?)
    description := ← optional? fields "description" string?
    required := ← defaulted? fields "required" false bool?
    deprecated := ← defaulted? fields "deprecated" false bool?
    schema := ← optional? fields "schema" Position.ofJson?
    content := ← content? fields
    style := ← optional? fields "style" string?
    explode := ← optional? fields "explode" bool?
    allowReserved := ← defaulted? fields "allowReserved" false bool? }

/-- The body of a request. -/
def RequestBody.ofJson? (v : Json) : Option RequestBody := do
  let fields ← record? ["description", "content", "required"] 1 v
  some {
    description := ← optional? fields "description" string?
    content := ← content? fields
    required := ← defaulted? fields "required" false bool? }

/-- A response. -/
def Response.ofJson? (v : Json) : Option Response := do
  let fields ← record? ["description", "content"] 0 v
  some {
    description := ← defaulted? fields "description" "" string?
    content := ← content? fields }

/-- A list of security requirements. -/
def requirements? : Json → Option (List Requirement) := list? (entries? (list? string?))

/-- A list of parameters. -/
def parameters? (fields : Entries String Json) : Option (List (RefOr Parameter)) :=
  defaulted? fields "parameters" [] (list? (RefOr.ofJson? Parameter.ofJson?))

/-- A list of servers. -/
def servers? (fields : Entries String Json) : Option (List Server) :=
  defaulted? fields "servers" [] (list? server?)

/-- An operation. -/
def Operation.ofJson? (v : Json) : Option Operation := do
  let fields ← record? ["operationId", "summary", "description", "deprecated", "tags",
    "parameters", "requestBody", "responses", "security", "servers"] 0 v
  some {
    operationId := ← optional? fields "operationId" string?
    summary := ← optional? fields "summary" string?
    description := ← optional? fields "description" string?
    deprecated := ← defaulted? fields "deprecated" false bool?
    tags := ← defaulted? fields "tags" [] (list? string?)
    parameters := ← parameters? fields
    requestBody := ← optional? fields "requestBody" (RefOr.ofJson? RequestBody.ofJson?)
    responses := ← defaulted? fields "responses" [] (entries? (RefOr.ofJson? Response.ofJson?))
    security := ← optional? fields "security" requirements?
    servers := ← servers? fields }

/-- The operations of one path. -/
def PathItem.ofJson? (v : Json) : Option PathItem := do
  let fields ← record? ["$ref", "parameters", "servers", "get", "put", "post", "delete",
    "options", "head", "patch", "trace"] 11 v
  some {
    pointer := ← optional? fields "$ref" string?
    parameters := ← parameters? fields
    servers := ← servers? fields
    get := ← optional? fields "get" Operation.ofJson?
    put := ← optional? fields "put" Operation.ofJson?
    post := ← optional? fields "post" Operation.ofJson?
    delete := ← optional? fields "delete" Operation.ofJson?
    options := ← optional? fields "options" Operation.ofJson?
    head := ← optional? fields "head" Operation.ofJson?
    patch := ← optional? fields "patch" Operation.ofJson?
    trace := ← optional? fields "trace" Operation.ofJson? }

end OpenApiTypes.Spec
