/-
Models written as trees of values.

* `Model.Schema.toJson`: a schema; what it does not say is left out;
* `Model.Operation.toJson`: an operation;
* `Model.Api.toJson`: a whole model, maps in their order.
-/
import OpenApiTypes.Json.Record
import OpenApiTypes.Model.Api

namespace OpenApiTypes.Model

open Json (memberIf flag)

/-- A member that is left out when the list is empty. -/
def listMember (name : String) (items : List Json) : List (String × Json) :=
  if items.isEmpty then [] else [(name, .arr items)]

/-- A member that is left out when the map is empty. -/
def entriesMember (name : String) (members : List (String × Json)) : List (String × Json) :=
  if members.isEmpty then [] else [(name, .obj members)]

/-! ### Schemas -/

/-- The word for an operator. -/
def Operator.name : Operator → String
  | .and => "and"
  | .or => "or"

/-- The word for an access. -/
def Access.name : Access → String
  | .read => "read"
  | .write => "write"

/-- The members of constraints. -/
def Facets.members (f : Facets) : List (String × Json) :=
  memberIf "format" (f.format.map .str)
    ++ memberIf "pattern" (f.pattern.map .str)
    ++ memberIf "minimum" (f.minimum.map .float)
    ++ memberIf "maximum" (f.maximum.map .float)
    ++ memberIf "exclusive_minimum" (f.exclusiveMinimum.map .float)
    ++ memberIf "exclusive_maximum" (f.exclusiveMaximum.map .float)
    ++ memberIf "min_length" (f.minLength.map .nat)
    ++ memberIf "max_length" (f.maxLength.map .nat)
    ++ memberIf "min_items" (f.minItems.map .nat)
    ++ memberIf "max_items" (f.maxItems.map .nat)

/-- The members of documentation. -/
def Documentation.members (d : Documentation) : List (String × Json) :=
  memberIf "default" d.defaultValue
    ++ memberIf "title" (d.title.map .str)
    ++ memberIf "description" (d.description.map .str)
    ++ flag "deprecated" d.deprecated
    ++ memberIf "example" d.example_
    ++ memberIf "access_scope" (d.access.map fun a => .str a.name)

mutual

/-- A schema. -/
def Schema.toJson : Schema → Json
  | { pointer, shape, properties, required, additionalProperties, items, operator?, facets,
      constValue, documentation } =>
    .obj (memberIf "$ref" (pointer.map .str)
      ++ memberIf "type" (shape.map fun s => .str s.name)
      ++ entriesMember "properties" (propertyMembers properties)
      ++ listMember "required" (required.map .str)
      ++ memberIf "additional_properties" (optionalToJson additionalProperties)
      ++ listMember "items" (itemsToJson items)
      ++ memberIf "logical_operator" (operator?.map fun o => .str o.name)
      ++ facets.members
      ++ memberIf "const" constValue
      ++ documentation.members)

/-- The members that properties become. -/
def propertyMembers : List (String × Schema) → List (String × Json)
  | [] => []
  | (name, s) :: rest => (name, s.toJson) :: propertyMembers rest

/-- A schema that may be missing. -/
def optionalToJson : Option Schema → Option Json
  | none => none
  | some s => some s.toJson

/-- The items of a schema. -/
def itemsToJson : List Schema → List Json
  | [] => []
  | s :: rest => s.toJson :: itemsToJson rest

end

/-! ### Operations -/

/-- The field that pages through results. -/
def Pagination.toJson : Pagination → Json
  | root => .str "root"
  | field name => .obj [("field", .str name)]

/-- A parameter. -/
def Parameter.toJson (p : Parameter) : Json :=
  .obj ([("name", .str p.name), ("location", .str p.place.name), ("style", .str p.style.name),
      ("explode", .bool p.explode)]
    ++ flag "allow_reserved" p.allowReserved
    ++ [("required", .bool p.required)]
    ++ flag "deprecated" p.deprecated
    ++ memberIf "description" (p.description.map .str)
    ++ [("schema", p.schema.toJson)]
    ++ memberIf "pagination" (p.pagination.map Pagination.toJson))

/-- The members that parameters become. -/
def parameterMembers (ps : Entries String Parameter) : List (String × Json) :=
  ps.mapValues Parameter.toJson

/-- Parameters by place; places without any are left out. -/
def Parameters.toJson (ps : Parameters) : Json :=
  .obj (Place.all.flatMap fun place => entriesMember place.name (parameterMembers (ps.at_ place)))

/-- A body. -/
def Body.toJson (b : Body) : Json :=
  .obj ([("media_type", .str b.mediaType)]
    ++ memberIf "kind" (b.kind.map fun k => .str k.name)
    ++ [("required", .bool b.required)]
    ++ memberIf "description" (b.description.map .str)
    ++ [("schema", b.schema.toJson)]
    ++ memberIf "pagination" (b.pagination.map Pagination.toJson))

/-- A response. -/
def Response.toJson (r : Response) : Json :=
  .obj (memberIf "media_type" (r.mediaType.map .str)
    ++ memberIf "description" (r.description.map .str)
    ++ [("schema", r.schema.toJson)])

/-- The members of a kind of security scheme. -/
def SecurityKind.members : SecurityKind → List (String × Json)
  | apiKey parameter place =>
    [("type", .str "apiKey"), ("parameter", .str parameter), ("location", .str place.name)]
  | http scheme bearerFormat =>
    [("type", .str "http"), ("scheme", .str scheme)]
      ++ memberIf "bearer_format" (bearerFormat.map .str)
  | oauth2 => [("type", .str "oauth2")]
  | openIdConnect url => [("type", .str "openIdConnect"), ("url", .str url)]
  | mutualTls => [("type", .str "mutualTLS")]

/-- A security scheme. -/
def SecurityScheme.toJson (s : SecurityScheme) : Json :=
  .obj ([("name", .str s.name)] ++ s.kind.members
    ++ memberIf "description" (s.description.map .str))

/-- A server. -/
def serverToJson (s : Server) : Json :=
  .obj ([("url", .str s.url)] ++ memberIf "description" (s.description.map .str))

/-- An operation. -/
def Operation.toJson (op : Operation) : Json :=
  .obj ([("id", .str op.id), ("method", .str op.method.lower), ("path", .str op.path)]
    ++ memberIf "operation_id" (op.operationId.map .str)
    ++ memberIf "summary" (op.summary.map .str)
    ++ memberIf "description" (op.description.map .str)
    ++ flag "deprecated" op.deprecated
    ++ listMember "tags" (op.tags.map .str)
    ++ [("parameters", op.parameters.toJson)]
    ++ memberIf "body" (op.body.map Body.toJson)
    ++ [("responses", .obj (op.responses.mapValues Response.toJson))]
    ++ listMember "security" (op.security.map SecurityScheme.toJson)
    ++ listMember "servers" (op.servers.map serverToJson))

/-! ### Models -/

/-- The operations of one path. -/
def pathToJson (operations : PathOperations) : Json :=
  .obj (operations.map fun (method, op) => (method.lower, op.toJson))

/-- What is said about an API. -/
def Info.toJson (i : Info) : Json :=
  .obj ([("title", .str i.title)] ++ memberIf "description" (i.description.map .str)
    ++ [("version", .str i.version)])

/-- Definitions by name. -/
def Components.toJson (c : Components) : Json :=
  .obj ([("schemas", .obj (c.schemas.mapValues Schema.toJson))]
    ++ entriesMember "parameters" (parameterMembers c.parameters)
    ++ entriesMember "request_bodies" (c.bodies.mapValues Body.toJson))

/-- A model. -/
def Api.toJson (api : Api) : Json :=
  .obj ([("info", api.info.toJson)]
    ++ listMember "servers" (api.servers.map serverToJson)
    ++ [("paths", .obj (api.paths.mapValues pathToJson))]
    ++ entriesMember "webhooks" (api.webhooks.mapValues pathToJson)
    ++ [("components", api.components.toJson)])

end OpenApiTypes.Model
