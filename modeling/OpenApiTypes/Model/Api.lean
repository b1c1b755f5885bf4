/-
Models of whole APIs.

* `Model.Api`: what a document says, in one dialect. Its schemas refer to nothing but its own
  component schemas;
* `Model.Api.operations`, `Model.Api.webhookOperations`: its operations in document order.
-/
import OpenApiTypes.Model.Catalog
import OpenApiTypes.Model.Operation

namespace OpenApiTypes.Model

/-- What is said about an API. -/
structure Info where
  title : String := ""
  description : Option String := none
  version : String := ""
deriving DecidableEq, Repr

/-- Definitions by name. -/
structure Components where
  schemas : Catalog := []
  parameters : Entries String Parameter := []
  bodies : Entries String Body := []
deriving Repr

/-- The operations of one path or webhook. -/
abbrev PathOperations := Entries HttpMethod Operation

/-- A model of an API. -/
structure Api where
  info : Info := {}
  servers : List Server := []
  paths : Entries String PathOperations := []
  webhooks : Entries String PathOperations := []
  components : Components := {}
deriving Repr

namespace Api

/-- The operations of all paths. -/
def operations (api : Api) : List Operation := api.paths.values.flatMap Entries.values

/-- The operations of all webhooks. -/
def webhookOperations (api : Api) : List Operation := api.webhooks.values.flatMap Entries.values

/-- The component schemas. -/
def catalog (api : Api) : Catalog := api.components.schemas

end Api

end OpenApiTypes.Model
