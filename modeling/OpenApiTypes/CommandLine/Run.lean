/-
Commands and what they do.

* `CommandLine.Outcome`: what a run prints, and its exit code;
* `CommandLine.Action`: steps of a command. What was printed and stored before a failure stays;
* `CommandLine.perform`: what a command does;
* `CommandLine.run`: the outcome of a list of arguments.
-/
import OpenApiTypes.CommandLine.Arguments
import OpenApiTypes.Config.Source
import OpenApiTypes.Files.Store
import OpenApiTypes.Generation.Pipeline
import OpenApiTypes.Input
import OpenApiTypes.Json.Printer
import OpenApiTypes.Model.Digest
import OpenApiTypes.Model.Tree
import OpenApiTypes.Normalize.Document
import OpenApiTypes.Spec.Text
import OpenApiTypes.Yaml.Printer

namespace OpenApiTypes.CommandLine

open OpenApiTypes.Files (FileSystem)

/-! ### Steps -/

/-- What a run prints, and its exit code. -/
structure Outcome where
  code : Nat := 0
  stdout : String := ""
  stderr : String := ""
deriving DecidableEq, Repr

/-- A step of a command. It fails with what is said of the failure. -/
abbrev Action (m : Type → Type) (α : Type) := ExceptT String (StateT Outcome m) α

section

variable {m : Type → Type} [Monad m]

/-- Prints a line on the standard error stream. -/
def say (line : String) : Action m Unit :=
  modify fun outcome => { outcome with stderr := outcome.stderr ++ line ++ "\n" }

/-- Prints a text on the standard output stream. -/
def print (text : String) : Action m Unit :=
  modify fun outcome => { outcome with stdout := outcome.stdout ++ text }

/-- A step that fails with a text if there is no result. -/
def orFail {ε α : Type} (message : ε → String) : Except ε α → Action m α
  | .ok a => pure a
  | .error e => throw (message e)

/-- A step on files that fails with a text. -/
def onFiles {ε α : Type} (message : ε → String) (step : ExceptT ε m α) : Action m α := do
  orFail message (← liftM step.run)

/-- Prints warnings. -/
def report (diagnostics : List Diagnostic) : Action m Unit :=
  diagnostics.forM fun d => say ("  warning: " ++ d.text)

end

variable {m : Type → Type} [Monad m] [FileSystem m]

/-! ### Documents -/

/-- The configuration of the project; the default one if there is none. -/
def loadConfig : Action m Config := do
  if ← liftM (FileSystem.holds Config.fileName : m Bool) then
    let bytes ← liftM (FileSystem.read Config.fileName : ExceptT Files.FileError m _).run
    orFail (fun _ => "failed to load " ++ Config.fileName)
      (Config.ofFile Config.fileName bytes.toOption)
  else return {}

/-- The document of a text. Files with the extension `json` hold JSON, all others YAML. -/
def documentOf (path text : String) : Except Spec.ReadError Spec.Source :=
  if Files.extension? path == some "json" then Spec.Source.ofJsonText text
  else Spec.Source.ofYamlText text

/-- The document of a file. -/
def readFile (path : String) : Action m Spec.Source := do
  let unreadable := "failed to read " ++ path
  let bytes ← onFiles (fun _ => unreadable) (FileSystem.read path)
  match Utf8.decode? bytes with
  | none => throw unreadable
  | some cs => orFail (fun _ => "failed to parse " ++ path) (documentOf path (String.ofList cs))

/-- What is said of a document that would have to be downloaded. -/
def remoteText (address : String) : String :=
  "remote inputs are not fetched; download " ++ address ++ " and pass the file with --input"

/-- The document that a text denotes. -/
def readDocument (text : String) : Action m Spec.Source := do
  match ← orFail Input.Problem.message (Input.ofText text) with
  | .file path => readFile path
  | input => throw (remoteText (input.remoteUrl?.getD text))

/-- The model of a document. -/
def modelOf (source : Spec.Source) (options : Normalize.Options) :
    Action m (Reported Model.Api) :=
  orFail (fun name => (Generation.Failure.config (.emptyAlias name)).message)
    (Normalize.run source options)

/-- The options that a configuration sets. -/
def optionsOf (config : Config) : Normalize.Options :=
  { strategy := config.naming.strategy
    aliases := config.naming.aliases
    keywords := config.keywords }

/-! ### Commands -/

/-- Stores finished files and tells which have been written. -/
def storeAll (directory : String) (artifacts : List Output.Artifact) : Action m Unit := do
  onFiles (fun _ => "failed to create output directory " ++ directory)
    (FileSystem.makeDirectories directory)
  artifacts.forM fun artifact => do
    onFiles Files.StoreError.message (Files.store directory artifact)
    if artifact.content.isSome then
      say ("  wrote " ++ Files.join directory artifact.path)

/-- Generates files from a document. -/
def generate (input output : Option String) : Action m Unit := do
  let config ← loadConfig
  let input := input.getD config.input
  let output := output.getD config.output
  let api ← modelOf (← readDocument input) (optionsOf config)
  let pipeline ← orFail Config.Problem.message (Generation.Pipeline.ofConfig config)
  say ("Generating " ++ input ++ " → " ++ output
    ++ " (" ++ Text.joinWith ", " pipeline.names ++ ")")
  let result ← orFail Generation.Failure.message (pipeline.generate ⟨api.value, config⟩)
  report (api.diagnostics ++ result.diagnostics)
  storeAll output result.artifacts
  let written := result.artifacts.filter fun artifact => artifact.content.isSome
  say ("Generated " ++ toString written.length ++ " files in " ++ output)

/-- Tells what a document holds. -/
def validate (input : String) : Action m Unit := do
  let source ← readDocument input
  let document := source.document
  let count (label : String) (n : Nat) : Action m Unit :=
    say ("  " ++ label ++ ": " ++ toString n)
  say ("Valid OpenAPI " ++ document.openapi ++ " document: " ++ document.info.title)
  say ("  Version: " ++ document.info.version)
  count "Paths" document.paths.length
  count "Webhooks" document.webhooks.length
  match document.components with
  | some components => count "Schemas" components.schemas.length
  | none => pure ()
  let api ← modelOf source (optionsOf {})
  count "Operations" api.value.operations.length
  report api.diagnostics
  say "Validation successful."

/-- Shows the model of a document. -/
def inspect (input : String) (format : Format) (full : Bool) : Action m Unit := do
  let config ← loadConfig
  let api ← modelOf (← readDocument input) (optionsOf config)
  report api.diagnostics
  let shown := if full then api.value.toJson else api.value.digest
  print (match format with
    | .yaml => Yaml.print shown
    | .json => shown.pretty ++ "\n")

/-- Creates a configuration. -/
def initProject (force : Bool) : Action m Unit := do
  let present ← liftM (FileSystem.holds Config.fileName : m Bool)
  if present && !force then
    throw (Config.fileName ++ " already exists. Use --force to overwrite.")
  onFiles (fun _ => "failed to write " ++ Config.fileName)
    (FileSystem.write Config.fileName (Utf8.encode Config.initialText.toList))
  say ("Created " ++ Config.fileName)

/-- What a command does. -/
def perform : Command → Action m Unit
  | .generate input output => generate input output
  | .validate input => validate input
  | .inspect input format full => inspect input format full
  | .init force => initProject force
  | .version => print "apigen 0.1.0\n"

/-! ### Runs -/

/-- What is said when the arguments denote no command. -/
def usage : String :=
  "Usage: apigen generate [-i INPUT] [-o OUTPUT] | validate -i INPUT"
    ++ " | inspect -i INPUT [--format yaml|json] [--full] | init [--force]\n"

/-- The outcome of a list of arguments. -/
def run (arguments : List String) : m Outcome := do
  match Command.ofArguments? arguments with
  | none => return { code := 2, stderr := usage }
  | some command =>
    match ← (perform command).run.run {} with
    | (.ok (), outcome) => return outcome
    | (.error text, outcome) =>
      return { outcome with code := 1, stderr := outcome.stderr ++ "Error: " ++ text ++ "\n" }

end OpenApiTypes.CommandLine
