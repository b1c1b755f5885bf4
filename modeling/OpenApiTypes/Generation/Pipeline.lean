/-
All generators of a configuration, one after the other.

* `Generation.Pipeline`: generators in the order in which they run;
* `Generation.Pipeline.ofConfig`: those of a configuration and those they depend on, which run
  first. None may be listed twice;
* `Generation.Pipeline.session`: what a run leaves behind, its files still under construction;
* `Generation.Pipeline.generate`: the finished files and the warnings of a run;
* `Generation.indexFile`: the file that exports from all others.
-/
import OpenApiTypes.Transformers.Declarations

namespace OpenApiTypes.Generation

open OpenApiTypes.Config (Generator GeneratorKind Problem)
open OpenApiTypes.Output (Artifact File)

/-! ### Order -/

/-- The generators whose files a generator reads. None of these reads files itself. -/
def dependencies : GeneratorKind → List GeneratorKind
  | .types => []
  | .transformers => [.types]

/-- The generator that is listed again first. -/
def firstDuplicate? (seen : List GeneratorKind) : List Generator → Option Generator
  | [] => none
  | g :: rest => if g.kind ∈ seen then some g else firstDuplicate? (g.kind :: seen) rest

/-- Adds generators that others depend on, with default options. -/
def withDependencies (generators : List Generator) : List Generator :=
  (generators.flatMap fun g => dependencies g.kind).foldl
    (fun known kind =>
      if known.any fun g => g.kind == kind then known else known ++ [Generator.ofKind kind])
    generators

/-- Puts generators that depend on none before the others. -/
def inOrder (generators : List Generator) : List Generator :=
  (generators.filter fun g => (dependencies g.kind).isEmpty)
    ++ generators.filter fun g => !(dependencies g.kind).isEmpty

/-- Generators in the order in which they run. -/
abbrev Pipeline := List Generator

namespace Pipeline

/-- The pipeline of a configuration. -/
def ofConfig (config : Config) : Except Problem Pipeline :=
  match firstDuplicate? [] config.generators with
  | some g => .error (.duplicateGenerator g.name)
  | none => .ok (inOrder (withDependencies config.generators))

/-- The names of the generators in order. -/
def names (p : Pipeline) : List String := p.map Generator.name

end Pipeline

/-! ### Runs -/

/-- Runs one generator. -/
def runGenerator [Template.Engine] (setting : Setting) : Generator → Generation Unit
  | .types options => Types.run setting options
  | .transformers options => Transformers.run setting options

/-- What stands between the parts of a file. -/
def partSeparator : String := "\n\n"

/-- The file that exports from all files with content that are to be exported from. -/
def indexFile (header : Bool) (artifacts : List Artifact) : File :=
  let index := File.create "index" "index" header false
  let exported := artifacts.filter fun a => a.exportFromIndex && a.content.isSome
  index.addAll (exported.map fun a => .exportAll (Output.relativeModule index.path a.path))

/-- Everything a run produced. -/
structure Result where
  artifacts : List Artifact
  diagnostics : List Diagnostic

/-- The finished files of a session, and the file that exports from them. -/
def Session.finish (session : Session) (config : Config) : Result :=
  let artifacts := session.files.values.map fun f => f.finish partSeparator
  let index := if config.outputOptions.index then
      [(indexFile config.outputOptions.header artifacts).finish "\n"]
    else []
  ⟨artifacts ++ index, session.diagnostics⟩

/-- The session that the generators of a pipeline leave behind. -/
def Pipeline.session [Template.Engine] (p : Pipeline) (setting : Setting) :
    Except Failure Session :=
  match StateT.run (ExceptT.run (p.forM (runGenerator setting))) {} with
  | (.ok (), session) => .ok session
  | (.error failure, _) => .error failure

/-- Runs the generators of a pipeline over a model. -/
def Pipeline.generate [Template.Engine] (p : Pipeline) (setting : Setting) :
    Except Failure Result := do
  return (← p.session setting).finish setting.config

end OpenApiTypes.Generation
