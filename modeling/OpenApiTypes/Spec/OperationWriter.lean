/-
Paths, operations and what they exchange, written as JSON.

* `Spec.Parameter.toJson`, `Spec.RequestBody.toJson`, `Spec.Response.toJson`,
  `Spec.Operation.toJson`, `Spec.PathItem.toJson`. Members that say nothing are left out, save
  the flags of a parameter and the content and flag of a request body.
-/
import OpenApiTypes.Spec.Operation
import OpenApiTypes.Spec.SchemaWriter

namespace OpenApiTypes.Spec

open Json (memberIf flag)

/-- A server. -/
def serverToJson (s : Server) : Json :=
  .obj (("url", .str s.url) :: memberIf "description" (s.description.map .str))

/-- One entry of a `content` map. -/
def MediaType.toJson (m : MediaType) : Json :=
  .obj (memberIf "schema" (m.schema.map Position.toJson) ++ memberIf "example" m.example_)

/-- The members of a `content` map. -/
def contentMembers (content : Entries String MediaType) : List (String × Json) :=
  content.map fun (name, m) => (name, m.toJson)

/-- A parameter. -/
def Parameter.toJson (p : Parameter) : Json :=
  .obj ([("name", .str p.name), ("in", .str p.place.name)]
    ++ memberIf "description" (p.description.map .str)
    ++ [("required", .bool p.required), ("deprecated", .bool p.deprecated)]
    ++ memberIf "schema" (p.schema.map Position.toJson)
    ++ entriesMember "content" (contentMembers p.content)
    ++ memberIf "style" (p.style.map .str)
    ++ memberIf "explode" (p.explode.map .bool)
    ++ [("allowReserved", .bool p.allowReserved)])

/-- The body of a request. -/
def RequestBody.toJson (b : RequestBody) : Json :=
  .obj (memberIf "description" (b.description.map .str)
    ++ [("content", .obj (contentMembers b.content)), ("required", .bool b.required)])

/-- A response. -/
def Response.toJson (r : Response) : Json :=
  .obj ((if r.description.isEmpty then [] else [("description", .str r.description)])
    ++ entriesMember "content" (contentMembers r.content))

/-- A security requirement. -/
def requirementToJson (r : Requirement) : Json :=
  .obj (r.map fun (name, scopes) => (name, Json.strings scopes))

/-- A list of security requirements. -/
def requirementsToJson (rs : List Requirement) : Json := .arr (rs.map requirementToJson)

/-- An operation. -/
def Operation.toJson (o : Operation) : Json :=
  .obj (memberIf "operationId" (o.operationId.map .str)
    ++ memberIf "summary" (o.summary.map .str)
    ++ memberIf "description" (o.description.map .str)
    ++ flag "deprecated" o.deprecated
    ++ listMember "tags" (o.tags.map .str)
    ++ listMember "parameters" (o.parameters.map (RefOr.toJson Parameter.toJson))
    ++ memberIf "requestBody" (o.requestBody.map (RefOr.toJson RequestBody.toJson))
    ++ entriesMember "responses"
      (o.responses.map fun (status, r) => (status, r.toJson Response.toJson))
    ++ memberIf "security" (o.security.map requirementsToJson)
    ++ listMember "servers" (o.servers.map serverToJson))

/-- The operations of one path. -/
def PathItem.toJson (item : PathItem) : Json :=
  .obj (memberIf "$ref" (item.pointer.map .str)
    ++ listMember "parameters" (item.parameters.map (RefOr.toJson Parameter.toJson))
    ++ listMember "servers" (item.servers.map serverToJson)
    ++ item.operations.map fun (method, op) => (method.lower, op.toJson))

end OpenApiTypes.Spec
