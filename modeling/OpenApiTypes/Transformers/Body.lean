/-
Statements that restore what a schema describes.

* `Transformers.statements`: the statements for a value. Where schemas nest deeper than
  `maxDepth`, it gives up with a warning;
* `Transformers.functionBody`: the statements of a function that restores its argument `data`;
* `Transformers.helperCall`: the call of the function for a component, which is generated when it
  is needed first. A component that needs no statements has no function.
-/
import OpenApiTypes.Generation.Session
import OpenApiTypes.Transformers.Leaf

namespace OpenApiTypes.Transformers

open OpenApiTypes.Model
open OpenApiTypes.TypeScript (Expr Stmt isPresent)
open OpenApiTypes.Config (GeneratorKind TransformersOptions)
open OpenApiTypes.Generation (Setting)

/-- The name of the generator. -/
def generatorName : String := GeneratorKind.transformers.name

/-- The id of the file that holds the transformers. -/
def fileId : String := "transformers"

/-- How deep schemas may nest. -/
def maxDepth : Nat := 32

/-- The argument of functions. -/
def data : Expr := .identifier "data"

/-- The element that a function for elements gets. -/
def item : Expr := .identifier "item"

/-- A function that gets one value. -/
def functionOf (argument : String) (body : List Stmt) : Expr :=
  .arrow false [⟨argument, some (.keyword .any)⟩] none body

/-- Gives the statements for the value of a schema at a target. The last argument tells where the
schema stands. -/
abbrev Conversion := Schema → Expr → String → Generation (List Stmt)

/-! ### Functions -/

/-- The statements for a value, behind a test that it is present if it may be null. -/
def guarded (convert : Conversion) (s : Schema) (target : Expr) (location : String) :
    Generation (List Stmt) := do
  let body ← convert s target location
  return if body.isEmpty || !s.admitsNull then body else [.cond (isPresent target) body]

/-- Statements that end by returning a value, unless there are none. -/
def returning (value : Expr) (body : List Stmt) : List Stmt :=
  match body.getLast? with
  | some last => if last.isReturn then body else body ++ [.ret (some value)]
  | none => []

/-- The statements of a function that restores its argument. There are none if nothing has to be
restored. -/
def functionBody (convert : Conversion) (s : Schema) (location : String) :
    Generation (List Stmt) := do
  return returning data (← guarded convert s data location)

/-! ### References -/

/-- The reference under which the function with a certain name is known. -/
def helperReference (helper : String) : String :=
  "#/transformers/schemas/" ++ Pointer.escape helper

/-- Generates the function for a component under a name; tells whether it was needed. -/
def declareHelper (setting : Setting) (convert : Conversion) (pointer name : String) :
    Generation Bool := do
  let body ← match setting.model.catalog.find? pointer with
    | some s => functionBody convert s pointer
    | none => pure []
  if body.isEmpty then return false
  let function := functionOf "data" body
  Generation.addTo generatorName fileId (.const name false none function [])
  return true

/-- The call of a function for a component, `target = name(target)`. -/
def callStatement (name : String) (target : Expr) : Stmt :=
  .expr (.assign target (.call (.identifier name) [target]))

/-- The call of the function for the component that a pointer leads to. -/
def helperCall [Template.Engine] (setting : Setting) (options : TransformersOptions)
    (convert : Conversion) (pointer : String) (target : Expr) (location : String) :
    Generation (List Stmt) := do
  match Pointer.schemaName? pointer with
  | none => do
    Generation.warn location ("cannot transform non-component reference " ++ pointer)
    return []
  | some schemaName => do
    let helper ← Generation.ofConfig
      (Config.renderName generatorName options.schemaName schemaName)
    let reference := helperReference helper
    match ← Generation.request fileId reference .value true with
    | .active name true => do
      if ← declareHelper setting convert pointer name then return [callStatement name target]
      Generation.suppress fileId reference .value
      return []
    | .active name false => return [callStatement name target]
    | _ => return []

/-! ### Containers -/

/-- The statements of a function for elements. An assignment to the element alone becomes the
value that is returned. -/
def itemBody : List Stmt → List Stmt
  | [.expr (.assign (.identifier "item") value)] => [.ret (some value)]
  | body => if body.any Stmt.isReturn then body else body ++ [.ret (some item)]

/-- `target = target.map(…)`, if the elements have to be restored. -/
def arrayStatements (convert : Conversion) (s : Schema) (target : Expr) (location : String) :
    Generation (List Stmt) := do
  match s.items with
  | [] => return []
  | element :: _ => do
    let body ← guarded convert element item (location ++ "/items")
    if body.isEmpty then return []
    let mapped := Expr.call (.property target "map") [functionOf "item" (itemBody body)]
    return [.expr (.assign target mapped)]

/-- The statements for a property, behind a test that it is present unless it always is. -/
def propertyStatements (convert : Conversion) (s : Schema) (target : Expr) (location : String)
    (property : String × Schema) : Generation (List Stmt) := do
  let (name, p) := property
  let access := Expr.property target name
  let body ← convert p access (location ++ "/properties/" ++ Pointer.escape name)
  return if body.isEmpty then []
    else if s.required.contains name && !p.admitsNull then body
    else [.cond (isPresent access) body]

/-- The statements for all properties in order. -/
def objectStatements (convert : Conversion) (s : Schema) (target : Expr) (location : String) :
    Generation (List Stmt) := do
  return (← s.properties.mapM (propertyStatements convert s target location)).flatten

/-! ### Compositions -/

/-- The statements for the items of a composition, all of the same value. -/
def itemStatements (convert : Conversion) (target : Expr) (location : String) :
    Nat → List Schema → Generation (List Stmt)
  | _, [] => pure []
  | index, s :: rest => do
    let own ← convert s target (location ++ "/items/" ++ toString index)
    return own ++ (← itemStatements convert target location (index + 1) rest)

/-- Whether a composition is a union of two of which one is null. -/
def isNullablePair (items : List Schema) : Bool :=
  items.length == 2 && items.any fun s => (s.shape.map Shape.isNullish).getD false

/-- Whether the items of a union could need statements. -/
def isComplexUnion (items : List Schema) : Bool :=
  items.any fun s => !((s.shape.map fun t => t.isPrimitive || t == .null).getD false)

/-- The statements for a composition. The items of a union cannot be told apart by their values,
so a union is left as it is unless null is its only alternative. -/
def compositionStatements (convert : Conversion) (s : Schema) (target : Expr)
    (location : String) : Generation (List Stmt) := do
  if s.items.length == 1 || s.operator == .and || isNullablePair s.items then
    itemStatements convert target location 0 s.items
  else do
    if isComplexUnion s.items then
      Generation.warn location ("union of " ++ toString s.items.length
        ++ " schemas is too complex to transform; values pass through unchanged")
    return []

/-! ### Any schema -/

/-- The statements for a schema that stands for no component. -/
def ownStatements (options : TransformersOptions) (convert : Conversion) (s : Schema)
    (target : Expr) (location : String) : Generation (List Stmt) :=
  match s.shape with
  | some .array => arrayStatements convert s target location
  | some .object => objectStatements convert s target location
  | some .tuple | some .enum => pure []
  | _ =>
    if s.items.isEmpty then pure (revive options s target)
    else compositionStatements convert s target location

/-- The statements for the value of a schema, when schemas may nest so many levels deeper. -/
def statements [Template.Engine] (setting : Setting) (options : TransformersOptions) :
    Nat → Conversion
  | 0, _, _, location => do
    Generation.warn location ("schema nests deeper than " ++ toString maxDepth
      ++ " levels; transformer truncated")
    return []
  | levels + 1, s, target, location =>
    let convert := statements setting options levels
    match s.pointer with
    | some pointer => helperCall setting options convert pointer target location
    | none => ownStatements options convert s target location

end OpenApiTypes.Transformers
