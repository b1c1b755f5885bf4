/-
The generator of types.

* `Types.declareSchema`: the type of a component, and a constant beside it for enumerations;
* `Types.declareOperation`: the types of a request and of its responses;
* `Types.declareWebhook`: the type of what a webhook sends;
* `Types.run`: all types of a model in one file.
-/
import OpenApiTypes.Generation.Event
import OpenApiTypes.Types.SchemaType

namespace OpenApiTypes.Types

open OpenApiTypes.Model
open OpenApiTypes.TypeScript (Expr Literal Property Stmt TypeExpr unionOf)
open OpenApiTypes.Config (GeneratorKind TypesOptions)

/-- The name of the generator. -/
def generatorName : String := GeneratorKind.types.name

/-! ### References -/

/-- The kinds of types that belong to an operation. -/
inductive OperationType where
  /-- What a request consists of. -/
  | data
  /-- The error responses by status. -/
  | errors
  /-- Any error response. -/
  | error
  /-- The successful responses by status. -/
  | responses
  /-- Any successful response. -/
  | response
deriving DecidableEq, Repr

/-- What the names of such types end in. -/
def OperationType.suffix : OperationType → String
  | data => "Data"
  | errors => "Errors"
  | error => "Error"
  | responses => "Responses"
  | response => "Response"

/-- The reference under which a type of an operation is named. -/
def operationReference (id : String) (type : OperationType) : String :=
  "#/ir/" ++ id ++ type.suffix

/-- The reference under which the type of what a webhook sends is named. -/
def webhookReference (name : String) (method : HttpMethod) : String :=
  "#/ir/webhooks/" ++ method.lower ++ "/" ++ name ++ "WebhookPayload"

/-! ### Components -/

/-- The label and the value of a constant of an enumeration. Nulls and containers have none. -/
def enumConstant? : Json → Option (String × Expr)
  | .str s => some (s, .literal (.string s))
  | .number n => some (n.text, .literal (.number n.text))
  | .bool b => some (if b then "true" else "false", .literal (.boolean b))
  | _ => none

/-- The key of a label that is not among the keys taken before. -/
def enumKey (taken : List String) (label : String) : String :=
  let base := NamingConvention.screaming.apply label
  if taken.contains base then
    Naming.firstFree taken.contains (fun n => base ++ "_" ++ toString n) taken.length
  else base

/-- The members of the constant of an enumeration. -/
def enumMembers (taken : List String) : List (String × Expr) → List (String × Expr)
  | [] => []
  | (label, value) :: rest =>
    let key := enumKey taken label
    (key, value) :: enumMembers (key :: taken) rest

/-- The value of the constant of an enumeration. -/
def enumObject (s : Schema) : Expr :=
  let constants := s.items.filterMap fun item => item.constValue.bind enumConstant?
  .asConst (.object (enumMembers [] constants))

/-- The type of an enumeration by the name of its constant. -/
def enumType (constant : String) (s : Schema) : TypeExpr :=
  unionOf (.valueOf constant :: if s.admitsNull then [.keyword .null] else [])

/-- Adds an exported type to the file. -/
def addAlias (name : String) (type : TypeExpr) (comment : List String) : Generation Unit :=
  Generation.addTo generatorName fileId (.typeAlias name true type comment)

/-- Adds an exported constant to the file. -/
def addConstant (name : String) (value : Expr) (comment : List String) : Generation Unit :=
  Generation.addTo generatorName fileId (.const name true none value comment)

/-- The name of the constant of a component, if it is to have one. -/
def constantName? (options : TypesOptions) (pointer : String) (s : Schema) :
    Generation (Option String) :=
  if options.enums && s.hasShape .enum then
    return (← Generation.request fileId pointer .value true).name?
  else pure none

/-- Declares the type of a component. -/
def declareSchema (options : TypesOptions) (conversions : Conversions) (name : String)
    (s : Schema) : Generation Unit := do
  let pointer := Pointer.schema name
  match (← Generation.request fileId pointer .type true).name? with
  | none => return
  | some typeName =>
    match ← constantName? options pointer s with
    | some constant => do
      addConstant constant (enumObject s) (comment s)
      addAlias typeName (enumType constant s) (comment s)
    | none => addAlias typeName (← Generation.ofNames (typeOf conversions s)) (comment s)

/-! ### Operations -/

/-- Declares a type under a reference. -/
def declare (pointer : String) (type : TypeExpr) (comment : List String) : Generation Unit := do
  match (← Generation.request fileId pointer .type true).name? with
  | none => return
  | some name => addAlias name type comment

/-- A member that nothing may be given for. -/
def absentMember (name : String) : Property TypeExpr :=
  { name, optional := true, type := .keyword .never }

/-- The member for a parameter. -/
def parameterMember (conversions : Conversions) (p : Model.Parameter) :
    StateM Output.Registry (Property TypeExpr) := do
  let type ← typeOf conversions p.schema
  return {
    name := p.name
    optional := !p.required
    type
    comment := p.description.toList ++ if p.deprecated then ["@deprecated"] else [] }

/-- The member for the parameters that are sent at one place. -/
def parametersMember (conversions : Conversions) (name : String) (ps : List Model.Parameter) :
    StateM Output.Registry (Property TypeExpr) := do
  if ps.isEmpty then return absentMember name
  let members ← ps.mapM (parameterMember conversions)
  return {
    name
    optional := !ps.any Model.Parameter.required
    type := .object members none }

/-- The member for the body of a request. -/
def bodyMember (conversions : Conversions) :
    Option Body → StateM Output.Registry (Property TypeExpr)
  | none => pure (absentMember "body")
  | some b => do
    let type ← typeOf conversions b.schema
    return { name := "body", optional := !b.required, type, comment := b.description.toList }

/-- The type of what a request consists of. -/
def dataType (conversions : Conversions) (op : Operation) : StateM Output.Registry TypeExpr := do
  let body ← bodyMember conversions op.body
  let headers ← parametersMember conversions "headers" op.parameters.header.values
  let path ← parametersMember conversions "path" op.parameters.path.values
  let query ← parametersMember conversions "query" op.parameters.query.values
  let url : Property TypeExpr := { name := "url", type := .literal (.string op.path) }
  return .object [body, headers, path, query, url] none

/-- The member for a response. -/
def responseMember (conversions : Conversions) (status : String) (r : Response) :
    StateM Output.Registry (Property TypeExpr) := do
  let type ← typeOf conversions r.schema
  return { name := status, type, comment := r.description.toList }

/-- The type of responses by status. -/
def statusType (conversions : Conversions) (rs : Responses) :
    StateM Output.Registry TypeExpr := do
  return .object (← rs.mapM fun (status, r) => responseMember conversions status r) none

/-- Declares the types of responses: all of them by status, and any of them. -/
def declareResponses (conversions : Conversions) (id : String) (rs : Responses)
    (byStatus any : OperationType) : Generation Unit := do
  if rs.isEmpty then return
  let type ← Generation.ofNames (statusType conversions rs)
  declare (operationReference id byStatus) type []
  match rs.schema? with
  | none => return
  | some s =>
    let type ← Generation.ofNames (typeOf conversions s)
    declare (operationReference id any) type []

/-- Declares the types of an operation. -/
def declareOperation (conversions : Conversions) (op : Operation) : Generation Unit := do
  let data ← Generation.ofNames (dataType conversions op)
  declare (operationReference op.id .data) data []
  declareResponses conversions op.id op.errors .errors .error
  declareResponses conversions op.id op.successes .responses .response

/-- Declares the type of what a webhook sends. -/
def declareWebhook (conversions : Conversions) (name : String) (op : Operation) :
    Generation Unit := do
  match op.body with
  | none => return
  | some b =>
    let type ← Generation.ofNames (typeOf conversions b.schema)
    declare (webhookReference name op.method) type b.description.toList

/-! ### The whole file -/

/-- Values arrive as objects of their own if the configuration has transformers for them. -/
def conversionsOf (config : Config) : Conversions :=
  match config.generator? .transformers with
  | some (.transformers o) => { dates := o.dates, bigint := o.bigint }
  | _ => {}

/-- Declares what an entry of the model gives. -/
def declareEvent (options : TypesOptions) (conversions : Conversions) :
    Generation.Event → Generation Unit
  | .schema name s => declareSchema options conversions name s
  | .operation op => declareOperation conversions op
  | .webhook name op => declareWebhook conversions name op
  | _ => pure ()

/-- Generates the file of types. -/
def run (setting : Generation.Setting) (options : TypesOptions) : Generation Unit := do
  Generation.createFile setting fileId options.output options.convention options.exportFromIndex
  Generation.forEach setting [.schema, .operation, .webhook]
    (declareEvent options (conversionsOf setting.config))

end OpenApiTypes.Types
