/-
The generator of response transformers.

* `Transformers.declareOperation`: the function that restores the response of an operation;
* `Transformers.run`: all transformers of a model in one file.
-/
import OpenApiTypes.Generation.Event
import OpenApiTypes.Transformers.Body
import OpenApiTypes.Types.Declarations

namespace OpenApiTypes.Transformers

open OpenApiTypes.Model
open OpenApiTypes.TypeScript (Expr Stmt named)
open OpenApiTypes.Config (TransformersOptions)
open OpenApiTypes.Generation (Setting)

/-- The reference under which a transformer with a certain name is known. -/
def transformerReference (transformer : String) : String := "#/ir/" ++ Pointer.escape transformer

/-- The schema of a successful response, unless there are several that are not void. -/
def responseSchema? (op : Operation) : Option Schema :=
  let schemas := op.successes.values.map Response.schema
  if (distinct (schemas.filter fun s => !s.hasShape .void)).length > 1 then none
  else Responses.schema? op.successes

/-- The function that restores a response of a type. -/
def transformer (type : String) (body : List Stmt) : Expr :=
  .arrow true [⟨"data", some (.keyword .any)⟩] (some (.reference "Promise" [named type])) body

/-- Adds the transformer of an operation, and imports the type that it returns. -/
def addTransformer (name responseType : String) (body : List Stmt) : Generation Unit := do
  let types ← Generation.requireFile generatorName Types.fileId
  let file ← Generation.requireFile generatorName fileId
  let module := Output.relativeModule file.path types.path
  let (imported, file) := file.import_ module { name := responseType, typeOnly := true }
  let declaration := Stmt.const name true none (transformer imported.localName body) []
  Generation.storeFile fileId (file.add declaration)

/-- Declares the transformer of an operation, if its response needs one. -/
def declareOperation [Template.Engine] (setting : Setting) (options : TransformersOptions)
    (op : Operation) : Generation Unit := do
  match responseSchema? op with
  | none => return
  | some s =>
    let type ← Generation.requireName Types.fileId
      (Types.operationReference op.id .response) .type
    let rendered ← Generation.ofConfig
      (Config.renderName generatorName options.responseName op.id)
    let reference := transformerReference rendered
    match (← Generation.request fileId reference .value true).name? with
    | none => return
    | some name => do
      let convert := statements setting options (maxDepth + 1)
      let body ← functionBody convert s ("#/ir/" ++ op.id ++ "/responses")
      if body.isEmpty then Generation.suppress fileId reference .value
      else addTransformer name type body

/-- Declares what an entry of the model gives. -/
def declareEvent [Template.Engine] (setting : Setting) (options : TransformersOptions) :
    Generation.Event → Generation Unit
  | .operation op => declareOperation setting options op
  | _ => pure ()

/-- Generates the file of transformers. The file of types has to be there. -/
def run [Template.Engine] (setting : Setting) (options : TransformersOptions) :
    Generation Unit := do
  let _ ← Generation.requireFile generatorName Types.fileId
  Generation.createFile setting fileId options.output .camel options.exportFromIndex
  Generation.forEach setting [.operation] (declareEvent setting options)

end OpenApiTypes.Transformers
