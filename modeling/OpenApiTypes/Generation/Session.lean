/-
One run of the generators.

* `Generation.Session`: the files, names and warnings that generators hand on to each other;
* `Generation.Setting`: the model and the configuration, which stay the same during a run;
* `Generation.Failure`: why a run stops, and what is said of it;
* `Generation`: steps of a run. What was done before a failure stays done;
* `Generation.createFile`, `Generation.requireFile`, `Generation.request`: the steps there are.
-/
import OpenApiTypes.Config.Basic
import OpenApiTypes.Diagnostic
import OpenApiTypes.Model.Api
import OpenApiTypes.Output.File
import OpenApiTypes.Output.Registry

namespace OpenApiTypes

open OpenApiTypes.Output (Identifier Namespace Registry)

namespace Generation

/-- The files, names and warnings of a run so far. Files stand in the order of their creation. -/
structure Session where
  registry : Registry := []
  files : Entries String Output.File := []
  diagnostics : List Diagnostic := []

/-- What stays the same during a run. -/
structure Setting where
  model : Model.Api
  config : Config

/-- Why a run stops. -/
inductive Failure where
  | config (problem : Config.Problem)
  /-- A name is needed that nobody has created. -/
  | missingName (pointer : String) (ns : Namespace) (file : String)
  /-- A file is needed that nobody has created. -/
  | missingFile (generator file : String)
deriving DecidableEq, Repr

/-- What is said of a name that nobody has created. -/
def missingNameText (pointer : String) (ns : Namespace) (file : String) : String :=
  "no " ++ ns.name ++ " identifier registered for " ++ pointer ++ " in " ++ file

/-- What is said of a failure. -/
def Failure.message : Failure → String
  | config problem => "configuration error: " ++ problem.message
  | missingName pointer ns file => "compiler error: " ++ missingNameText pointer ns file
  | missingFile generator file =>
    "plugin `" ++ generator ++ "` needs file `" ++ file ++ "`, which no plugin has created"

end Generation

open Generation in
/-- A step of a run: it changes the session and gives a result or fails. -/
abbrev Generation (α : Type) := ExceptT Failure (StateM Session) α

namespace Generation

/-- A step from something that may be wrong with the configuration. -/
def ofConfig {α : Type} : Except Config.Problem α → Generation α
  | .ok a => pure a
  | .error problem => throw (.config problem)

/-- A step that only concerns names. -/
def ofNames {α : Type} (step : StateM Registry α) : Generation α := do
  let session ← get
  let (a, registry) := step.run session.registry
  set { session with registry }
  return a

/-! ### Files -/

/-- Creates a file, in place of an earlier one under the same id. Names created in it follow the
convention. -/
def createFile (setting : Setting) (id name : String) (convention : NamingConvention)
    (exportFromIndex : Bool) : Generation Unit :=
  modify fun session =>
    let file := Output.File.create id name setting.config.outputOptions.header exportFromIndex
    { session with
      registry := session.registry.registerFile id convention
      files := session.files.put id file }

/-- A file that a generator cannot do without. -/
def requireFile (generator id : String) : Generation Output.File := do
  match (← get).files.get? id with
  | some file => return file
  | none => throw (.missingFile generator id)

/-- Stores a changed file. -/
def storeFile (id : String) (file : Output.File) : Generation Unit :=
  modify fun session => { session with files := session.files.put id file }

/-- Adds a statement to a file that a generator cannot do without. -/
def addTo (generator id : String) (s : TypeScript.Stmt) : Generation Unit := do
  storeFile id ((← requireFile generator id).add s)

/-! ### Names -/

/-- The name for a reference in a file. -/
def request (file pointer : String) (ns : Namespace) (creates : Bool) : Generation Identifier :=
  ofNames fun registry => registry.request pointer ns file creates

/-- The name for a reference that somebody must have created. -/
def requireName (file pointer : String) (ns : Namespace) : Generation String := do
  match (← get).registry.name? pointer ns file with
  | some name => return name
  | none => throw (.missingName pointer ns file)

/-- Withdraws the name of a reference. -/
def suppress (file pointer : String) (ns : Namespace) : Generation Unit := do
  let session ← get
  match session.registry.suppress? pointer ns file with
  | some registry => set { session with registry }
  | none => throw (.missingName pointer ns file)

/-! ### Warnings -/

/-- Raises a warning. -/
def warn (location message : String) : Generation Unit :=
  modify fun session =>
    { session with diagnostics := session.diagnostics ++ [⟨location, message⟩] }

end Generation

end OpenApiTypes
