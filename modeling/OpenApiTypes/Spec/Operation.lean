/-
Paths, operations and what they exchange, as a document declares them.

* `Spec.PathItem`: the operations of one path or webhook;
* `Spec.Operation`: one of them;
* `Spec.Parameter`, `Spec.RequestBody`, `Spec.Response`, `Spec.MediaType`: its parts;
* `Spec.PathItem.operations`: the operations a path declares, in the order of the methods.
-/
import OpenApiTypes.HttpMethod
import OpenApiTypes.Server
import OpenApiTypes.Spec.Schema

namespace OpenApiTypes.Spec

/-- Where a parameter is sent. -/
inductive ParameterPlace where
  | path
  | query
  | header
  | cookie
deriving DecidableEq, Repr

/-- The names of the places. -/
def ParameterPlace.name : ParameterPlace → String
  | path => "path"
  | query => "query"
  | header => "header"
  | cookie => "cookie"

/-- The place of a name. -/
def ParameterPlace.ofName? (s : String) : Option ParameterPlace :=
  [path, query, header, cookie].find? fun p => p.name == s

/-- One entry of a `content` map. -/
structure MediaType where
  schema : Option (Position Schema) := none
  example_ : Option Json := none
deriving Repr

/-- A parameter; its schema may be given through `content` instead. -/
structure Parameter where
  name : String
  place : ParameterPlace
  description : Option String
  required : Bool
  deprecated : Bool
  schema : Option (Position Schema)
  content : Entries String MediaType
  style : Option String
  explode : Option Bool
  allowReserved : Bool
deriving Repr

/-- The body of a request. -/
structure RequestBody where
  description : Option String
  content : Entries String MediaType
  required : Bool
deriving Repr

/-- A response. -/
structure Response where
  description : String
  content : Entries String MediaType
deriving Repr

/-- A security requirement: the scopes needed under each scheme. -/
abbrev Requirement := Entries String (List String)

/-- An operation. -/
structure Operation where
  operationId : Option String
  summary : Option String
  description : Option String
  deprecated : Bool
  tags : List String
  parameters : List (RefOr Parameter)
  requestBody : Option (RefOr RequestBody)
  responses : Entries String (RefOr Response)
  /-- Without a list the requirements of the document hold; an empty list lifts them. -/
  security : Option (List Requirement)
  servers : List Server
deriving Repr

/-- The operations of one path or webhook. -/
structure PathItem where
  /-- The item may stand elsewhere in the document. -/
  pointer : Option String
  parameters : List (RefOr Parameter)
  servers : List Server
  get : Option Operation
  put : Option Operation
  post : Option Operation
  delete : Option Operation
  options : Option Operation
  head : Option Operation
  patch : Option Operation
  trace : Option Operation
deriving Repr

namespace PathItem

/-- The operation of a method. -/
def operation? (item : PathItem) : HttpMethod → Option Operation
  | .get => item.get
  | .put => item.put
  | .post => item.post
  | .delete => item.delete
  | .options => item.options
  | .head => item.head
  | .patch => item.patch
  | .trace => item.trace

/-- The declared operations, in the order of the methods. -/
def operations (item : PathItem) : List (HttpMethod × Operation) :=
  HttpMethod.all.filterMap fun method => (item.operation? method).map fun op => (method, op)

end PathItem

end OpenApiTypes.Spec
