/-
What a model holds, in short.

* `Model.Operation.digest`: an operation in short;
* `Model.Api.digest`: the schemas, operations and webhooks of a model in short.
-/
import OpenApiTypes.Json.Record
import OpenApiTypes.Model.Api

namespace OpenApiTypes.Model

open Json (strings)

/-- A component schema in short. -/
def Schema.digest (name : String) (s : Schema) : Json :=
  .obj [("name", .str name), ("type", Json.orNull (s.shape.map fun shape => Json.str shape.name)),
    ("ref", Json.orNull (s.pointer.map Json.str))]

/-- The names of parameters that page through results: those of the path first, then those of the
query, the header and the cookies. -/
def Parameters.paginated (ps : Parameters) : List String :=
  [Place.path, Place.query, Place.header, Place.cookie].flatMap fun place =>
    ((ps.at_ place).values.filter fun p => p.pagination.isSome).map Parameter.name

/-- An operation in short. -/
def Operation.digest (op : Operation) : Json :=
  .obj [("id", .str op.id), ("method", .str op.method.upper), ("path", .str op.path),
    ("tags", strings op.tags), ("responses", strings op.responses.keys),
    ("pagination", strings op.parameters.paginated)]

/-- A model in short. -/
def Api.digest (api : Api) : Json :=
  .obj [("info", .obj [("title", .str api.info.title), ("version", .str api.info.version)]),
    ("servers", strings (api.servers.map Server.url)),
    ("schemas", .arr (api.components.schemas.map fun (name, s) => s.digest name)),
    ("operations", .arr (api.operations.map Operation.digest)),
    ("webhooks", .arr (api.webhookOperations.map Operation.digest))]

end OpenApiTypes.Model
