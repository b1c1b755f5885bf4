/-
Operations of a document turned into operations of the model.

* `Normalize.Setting`: what all operations of a document share;
* `Normalize.parameterList`: the parameters of a list; broken references are reported and left out;
* `Normalize.requestBodyOrRef?`, `Normalize.responseOrRef?`: bodies and responses, likewise;
* `Normalize.operation`: an operation. Its own parameters override those of its path.
-/
import OpenApiTypes.Model.Paging
import OpenApiTypes.Naming.OperationId
import OpenApiTypes.Normalize.Schema
import OpenApiTypes.Normalize.Security

namespace OpenApiTypes.Normalize

open OpenApiTypes.Model

/-- How operations are named and which fields page through results. -/
structure Options where
  strategy : NamingStrategy
  aliases : Entries String String
  keywords : List String

/-- What all operations of a document share. -/
structure Setting where
  options : Options
  scope : Scope
  /-- The component schemas, in which paging fields are looked for. -/
  catalog : Catalog
  schemes : Entries String SecurityScheme
  /-- The requirements of operations that declare none. -/
  security : Option (List Spec.Requirement)

namespace Setting

/-- A schema of an operation. -/
def schema (setting : Setting) (p : Spec.Position Spec.Schema) (location : String) :
    Reported Schema :=
  position setting.scope (.initial setting.scope) p location

/-- The schema of an entry of a `content` map. -/
def entrySchema (setting : Setting) (mediaType : String) (p : Spec.Position Spec.Schema)
    (location : String) : Reported Schema :=
  setting.schema p (location ++ "/content/" ++ Pointer.escape mediaType ++ "/schema")

end Setting

/-! ### Parameters -/

/-- The place of a parameter. -/
def placeOf : Spec.ParameterPlace → Place
  | .path => .path
  | .query => .query
  | .header => .header
  | .cookie => .cookie

/-- The style of a parameter; one that is not known is reported and replaced by the default. -/
def styleOf (place : Place) (declared : Option String) (location : String) : Reported Style :=
  match declared with
  | none => pure place.defaultStyle
  | some name =>
    match Style.ofName? name with
    | some style => pure style
    | none => .fallback place.defaultStyle location ("unknown parameter style `" ++ name ++ "`")

/-- The schema of a parameter: its own, or that of its content. -/
def parameterSchema (setting : Setting) (p : Spec.Parameter) (location : String) :
    Reported Schema :=
  match p.schema, selectContent? p.content with
  | some s, _ => setting.schema s (location ++ "/schema")
  | none, some selected =>
    match selected.content.schema with
    | some s => setting.entrySchema selected.mediaType s location
    | none => pure (Schema.ofShape .unknown)
  | none, none => pure (Schema.ofShape .unknown)

/-- A parameter. One in the path is always required. -/
def parameter (setting : Setting) (p : Spec.Parameter) (location : String) :
    Reported Parameter := do
  let place := placeOf p.place
  let style ← styleOf place p.style location
  let schema ← parameterSchema setting p location
  return {
    name := p.name
    place, style
    explode := p.explode.getD (style == .form)
    allowReserved := p.allowReserved
    required := p.required || place == .path
    deprecated := p.deprecated
    description := p.description
    schema
    pagination := pagingOfParameter? setting.catalog setting.options.keywords p.name schema }

/-- A parameter, or what a reference to one leads to. -/
def parameterOrRef? (setting : Setting) (p : Spec.RefOr Spec.Parameter) (location : String) :
    Reported (Option Parameter) :=
  match p with
  | .item p => do return some (← parameter setting p location)
  | .ref pointer =>
    match Reference.read Spec.Parameter.ofJson? setting.scope.tree pointer with
    | .ok p => do return some (← parameter setting p pointer)
    | .error e => .fallback none location ("skipping parameter: " ++ e.message)

/-- The parameters of a list, located by their numbers from `index` on. -/
def parameterListFrom (setting : Setting) (location : String) (index : Nat) :
    List (Spec.RefOr Spec.Parameter) → Reported (List Parameter)
  | [] => pure []
  | p :: rest => do
    let own ← parameterOrRef? setting p (location ++ "/parameters/" ++ toString index)
    return own.toList ++ (← parameterListFrom setting location (index + 1) rest)

/-- The parameters of a list. -/
def parameterList (setting : Setting) (ps : List (Spec.RefOr Spec.Parameter))
    (location : String) : Reported (List Parameter) :=
  parameterListFrom setting location 0 ps

/-! ### Bodies and responses -/

/-- The schema of selected content. Binary content without a schema is a binary text. -/
def contentSchema (setting : Setting) (selected : Selected Spec.MediaType) (location : String) :
    Reported Schema :=
  match selected.content.schema with
  | some s => setting.entrySchema selected.mediaType s location
  | none =>
    if selected.kind == some .octetStream then
      pure { shape := some .string, facets := { format := some "binary" } }
    else pure (Schema.ofShape .unknown)

/-- A request body; one without content is reported and left out. -/
def requestBody? (setting : Setting) (b : Spec.RequestBody) (location : String) :
    Reported (Option Body) :=
  match selectContent? b.content with
  | none => .fallback none location "request body declares no content"
  | some selected => do
    let schema ← contentSchema setting selected location
    return some {
      mediaType := selected.mediaType
      kind := selected.kind
      required := b.required
      description := b.description
      schema
      pagination := pagingOfBody? setting.catalog setting.options.keywords schema }

/-- A request body, or what a reference to one leads to. -/
def requestBodyOrRef? (setting : Setting) (b : Spec.RefOr Spec.RequestBody) (location : String) :
    Reported (Option Body) :=
  match b with
  | .item b => requestBody? setting b location
  | .ref pointer =>
    match Reference.read Spec.RequestBody.ofJson? setting.scope.tree pointer with
    | .ok b => requestBody? setting b pointer
    | .error e => .fallback none location ("skipping request body: " ++ e.message)

/-- A response. Without content it is void if its status says so, and unknown otherwise. -/
def response (setting : Setting) (status : String) (r : Spec.Response) (location : String) :
    Reported Response :=
  let description := if r.description.isEmpty then none else some r.description
  match selectContent? r.content with
  | some selected => do
    return ⟨some selected.mediaType, description, ← contentSchema setting selected location⟩
  | none =>
    pure ⟨none, description, Schema.ofShape (if status == "204" then .void else .unknown)⟩

/-- A response, or what a reference to one leads to. -/
def responseOrRef? (setting : Setting) (status : String) (r : Spec.RefOr Spec.Response)
    (location : String) : Reported (Option Response) :=
  match r with
  | .item r => do return some (← response setting status r location)
  | .ref pointer =>
    match Reference.read Spec.Response.ofJson? setting.scope.tree pointer with
    | .ok r => do return some (← response setting status r pointer)
    | .error e => .fallback none location ("skipping response: " ++ e.message)

/-- The responses of an operation by status. -/
def responses (setting : Setting) (location : String) :
    Entries String (Spec.RefOr Spec.Response) → Reported Responses
  | [] => pure []
  | (status, r) :: rest => do
    let own ← responseOrRef? setting status r
      (location ++ "/responses/" ++ Pointer.escape status)
    return (own.toList.map fun r => (status, r)) ++ (← responses setting location rest)

/-! ### Operations -/

/-- The request body of an operation. -/
def operationBody? (setting : Setting) (op : Spec.Operation) (location : String) :
    Reported (Option Body) :=
  match op.requestBody with
  | none => pure none
  | some b => requestBodyOrRef? setting b (location ++ "/requestBody")

/-- An operation under the id it was given. `shared` holds the parameters of its path, which its
own parameters override. -/
def operation (setting : Setting) (id : String) (method : HttpMethod) (path : String)
    (shared : List Parameter) (op : Spec.Operation) (location : String) :
    Reported Operation := do
  let own ← parameterList setting op.parameters location
  let body ← operationBody? setting op location
  let responses ← responses setting location op.responses
  let requirements := (op.security.or setting.security).getD []
  return {
    id, method, path
    operationId := op.operationId
    summary := op.summary
    description := op.description
    deprecated := op.deprecated
    tags := op.tags
    parameters := Parameters.ofList (shared ++ own)
    body, responses
    security := requiredSchemes setting.schemes requirements
    servers := op.servers }

end OpenApiTypes.Normalize
