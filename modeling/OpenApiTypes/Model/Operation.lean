/-
Operations of the model.

* `Model.Body`, `Model.Response`, `Model.SecurityScheme`: what an operation exchanges and needs;
* `Model.Operation`: an operation;
* `Model.StatusClass`: what a status says about the outcome;
* `Model.Operation.successes`, `Model.Operation.errors`: its responses by outcome. `default` is a
  success only when there is no other;
* `Model.unionOf`: one schema for several responses.
-/
import OpenApiTypes.HttpMethod
import OpenApiTypes.Model.Agreement
import OpenApiTypes.Model.MediaKind
import OpenApiTypes.Model.Parameter
import OpenApiTypes.Server

namespace OpenApiTypes.Model

/-- The body of a request: one media type of those declared. -/
structure Body where
  mediaType : String
  kind : Option MediaKind
  required : Bool
  description : Option String
  schema : Schema
  pagination : Option Pagination
deriving Repr

/-- A response. -/
structure Response where
  mediaType : Option String
  description : Option String
  schema : Schema
deriving Repr

/-- What distinguishes the kinds of security schemes. -/
inductive SecurityKind where
  | apiKey (parameter : String) (place : Place)
  | http (scheme : String) (bearerFormat : Option String)
  | oauth2
  | openIdConnect (url : String)
  | mutualTls
deriving DecidableEq, Repr

/-- A security scheme. -/
structure SecurityScheme where
  name : String
  kind : SecurityKind
  description : Option String
deriving DecidableEq, Repr

/-- An operation. Its id is unique in the document. -/
structure Operation where
  id : String
  method : HttpMethod
  path : String
  operationId : Option String
  summary : Option String
  description : Option String
  deprecated : Bool
  tags : List String
  parameters : Parameters
  body : Option Body
  responses : Entries String Response
  security : List SecurityScheme
  servers : List Server
deriving Repr

/-! ### Responses by outcome -/

/-- What a status says about the outcome. -/
inductive StatusClass where
  | success
  | error
  | default
  | other
deriving DecidableEq, Repr

/-- The class of a status, by its first character. -/
def StatusClass.ofStatus (status : String) : StatusClass :=
  if status == "default" then .default
  else match status.toList with
    | '2' :: _ => .success
    | '4' :: _ | '5' :: _ => .error
    | _ => .other

/-- Responses by status. -/
abbrev Responses := Entries String Response

namespace Operation

/-- The responses whose status has a certain class. -/
def ofClass (op : Operation) (c : StatusClass) : Responses :=
  op.responses.filter fun (status, _) => StatusClass.ofStatus status == c

/-- The responses that are successes. -/
def successes (op : Operation) : Responses :=
  let explicit := op.ofClass .success
  if explicit.isEmpty then op.ofClass .default else explicit

/-- The responses that are errors. -/
def errors (op : Operation) : Responses :=
  if (op.ofClass .success).isEmpty then op.ofClass .error
  else op.ofClass .error ++ op.ofClass .default

end Operation

/-- One schema for several: the union of those that differ. Beside any other schema, void ones
are left out. -/
def unionOf (schemas : List Schema) : Option Schema :=
  let different := distinct schemas
  let kept := if different.length > 1 then different.filter fun s => !s.hasShape .void
    else different
  if kept.isEmpty then none else some (Schema.composed kept .or)

/-- One schema for all responses. -/
def Responses.schema? (rs : Responses) : Option Schema := unionOf (rs.values.map Response.schema)

end OpenApiTypes.Model
