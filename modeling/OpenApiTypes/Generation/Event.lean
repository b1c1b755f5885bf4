/-
The entries of a model, one after the other.

* `Generation.Event`: an entry: a server, a component, an operation or a webhook;
* `Generation.events`: all entries in order;
* `Generation.forEach`: a step for each entry of certain kinds. The first failure stops the walk.
-/
import OpenApiTypes.Generation.Session

namespace OpenApiTypes.Generation

open OpenApiTypes.Model

/-- An entry of a model. -/
inductive Event where
  | server (s : Server)
  | schema (name : String) (s : Schema)
  | parameter (name : String) (p : Parameter)
  | requestBody (name : String) (b : Body)
  | operation (op : Operation)
  | webhook (name : String) (op : Operation)
deriving Repr

/-- The kinds of entries. -/
inductive EventKind where
  | server
  | schema
  | parameter
  | requestBody
  | operation
  | webhook
deriving DecidableEq, Repr

/-- The kind of an entry. -/
def Event.kind : Event → EventKind
  | server _ => .server
  | schema _ _ => .schema
  | parameter _ _ => .parameter
  | requestBody _ _ => .requestBody
  | operation _ => .operation
  | webhook _ _ => .webhook

/-- All entries: servers, components, operations, webhooks. -/
def events (api : Api) : List Event :=
  api.servers.map .server
    ++ (api.components.schemas.map fun (name, s) => .schema name s)
    ++ (api.components.parameters.map fun (name, p) => .parameter name p)
    ++ (api.components.bodies.map fun (name, b) => .requestBody name b)
    ++ api.operations.map .operation
    ++ api.webhooks.flatMap fun (name, operations) => operations.values.map fun op =>
      .webhook name op

/-- The entries of certain kinds, in order. -/
def eventsOf (api : Api) (kinds : List EventKind) : List Event :=
  (events api).filter fun e => kinds.contains e.kind

/-- A step for each entry of certain kinds. -/
def forEach (setting : Setting) (kinds : List EventKind) (step : Event → Generation Unit) :
    Generation Unit :=
  (eventsOf setting.model kinds).forM step

end OpenApiTypes.Generation
