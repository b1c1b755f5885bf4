/-
Documents turned into models.

* `Normalize.Section`: paths and webhooks, which are treated alike;
* `Normalize.Ledger`: the servers and operation ids met so far;
* `Normalize.pathItems`: the operations of a section;
* `Normalize.api`: the model of a document, with all warnings. Components come first, because
  operations look for paging fields in them;
* `Normalize.run`: the same under options that are checked before.
-/
import OpenApiTypes.Model.Api
import OpenApiTypes.Normalize.Operation

namespace OpenApiTypes.Normalize

open OpenApiTypes.Model

/-- The sections of a document that hold operations. -/
inductive Section where
  | paths
  | webhooks
deriving DecidableEq, Repr

/-- The pointer to a section. -/
def Section.pointer : Section → String
  | paths => "#/paths"
  | webhooks => "#/webhooks"

/-- The servers and operation ids met so far. -/
structure Ledger where
  servers : List Server
  claimed : ClaimedIds

/-! ### Operations -/

/-- The operations of one path. -/
def operations (setting : Setting) (path : String) (shared : List Parameter)
    (location : String) (ledger : Ledger) :
    List (HttpMethod × Spec.Operation) → Reported (PathOperations × Ledger)
  | [] => pure ([], ledger)
  | (method, op) :: rest => do
    let base := Naming.operationId setting.options.strategy setting.options.aliases method path
      op.operationId
    let (id, claimed) := ledger.claimed.claim base path
    let own ← operation setting id method path shared op (location ++ "/" ++ method.lower)
    let ledger := ⟨Server.addAll ledger.servers op.servers, claimed⟩
    let (others, ledger) ← operations setting path shared location ledger rest
    return ((method, own) :: others, ledger)

/-- The path item that a path item stands for: itself, or what its reference leads to. -/
def resolvedItem (scope : Scope) (item : Spec.PathItem) : Except ReferenceError Spec.PathItem :=
  match item.pointer with
  | none => .ok item
  | some pointer => Reference.read Spec.PathItem.ofJson? scope.tree pointer

/-- The operations of a path item; a broken reference is reported. -/
def pathItem (setting : Setting) (sec : Section) (ledger : Ledger) (key : String)
    (item : Spec.PathItem) : Reported (PathOperations × Ledger) :=
  let location := sec.pointer ++ "/" ++ Pointer.escape key
  match resolvedItem setting.scope item with
  | .error e => .fallback ([], ledger) location ("skipping path item: " ++ e.message)
  | .ok item => do
    let ledger := { ledger with servers := Server.addAll ledger.servers item.servers }
    let shared ← parameterList setting item.parameters location
    operations setting key shared location ledger item.operations

/-- The operations of a section by path. Paths without operations are left out. -/
def pathItems (setting : Setting) (sec : Section) (ledger : Ledger) :
    Entries String Spec.PathItem → Reported (Entries String PathOperations × Ledger)
  | [] => pure ([], ledger)
  | (key, item) :: rest => do
    let (own, ledger) ← pathItem setting sec ledger key item
    let (others, ledger) ← pathItems setting sec ledger rest
    return ((if own.isEmpty then [] else [(key, own)]) ++ others, ledger)

/-! ### Components -/

/-- The component schemas. -/
def componentSchemas (scope : Scope) :
    Entries String (Spec.Position Spec.Schema) → Reported Catalog
  | [] => pure []
  | (name, p) :: rest => do
    let s ← position scope (.initial scope) p (Pointer.schema name)
    return (name, s) :: (← componentSchemas scope rest)

/-- The component parameters. -/
def componentParameters (setting : Setting) :
    Entries String (Spec.RefOr Spec.Parameter) → Reported (Entries String Parameter)
  | [] => pure []
  | (name, p) :: rest => do
    let own ← parameterOrRef? setting p ("#/components/parameters/" ++ Pointer.escape name)
    return (own.toList.map fun p => (name, p)) ++ (← componentParameters setting rest)

/-- The component request bodies. -/
def componentBodies (setting : Setting) :
    Entries String (Spec.RefOr Spec.RequestBody) → Reported (Entries String Body)
  | [] => pure []
  | (name, b) :: rest => do
    let own ← requestBodyOrRef? setting b ("#/components/requestBodies/" ++ Pointer.escape name)
    return (own.toList.map fun b => (name, b)) ++ (← componentBodies setting rest)

/-! ### Documents -/

/-- The model of a document, with all warnings. -/
def api (source : Spec.Source) (options : Options) : Reported Api := do
  let document := source.document
  let components := document.components.getD {}
  let scope := Scope.ofSource source
  let schemes ← securitySchemes components.securitySchemes
  let catalog ← componentSchemas scope components.schemas
  let setting : Setting := ⟨options, scope, catalog, schemes, document.security⟩
  let parameters ← componentParameters setting components.parameters
  let bodies ← componentBodies setting components.requestBodies
  let ledger : Ledger := ⟨Server.addAll [] document.servers, []⟩
  let (paths, ledger) ← pathItems setting .paths ledger document.paths
  let (webhooks, ledger) ← pathItems setting .webhooks ledger document.webhooks
  return {
    info := ⟨document.info.title, document.info.description, document.info.version⟩
    servers := ledger.servers
    paths, webhooks
    components := { schemas := catalog, parameters, bodies } }

/-- The first alias that is blank, by the name it stands for. -/
def blankAlias? (aliases : Entries String String) : Option String :=
  (aliases.find? fun (_, id) => Text.allBlank id).map Prod.fst

/-- The model of a document, or the name whose alias is blank. -/
def run (source : Spec.Source) (options : Options) : Except String (Reported Api) :=
  match blankAlias? options.aliases with
  | some name => .error name
  | none => .ok (api source options)

end OpenApiTypes.Normalize
