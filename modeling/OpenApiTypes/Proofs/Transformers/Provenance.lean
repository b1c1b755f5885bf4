/-
Where the names in the file of transformers come from.

* `Transformers.FunctionName`: a name that is given for a function of a model that has a schema;
* `Transformers.ResponseTypeName`: a name that is given for the type of the responses of an
  operation;
* `Transformers.Sourced`: a file declares constants of the former names, and imports types of the
  latter;
* `Transformers.kept_sourced`: each step of the generator keeps its file so;
  `Transformers.sourced_of_session`: the file of transformers of a session is such, whatever the
  templates are and whether or not the operations have different ids.
-/
import OpenApiTypes.Proofs.Generation.Pipeline
import OpenApiTypes.Proofs.Transformers.Frame
import OpenApiTypes.Proofs.TypeScript.Mentions
import OpenApiTypes.Proofs.Types.Frame

namespace OpenApiTypes.Transformers

open OpenApiTypes.Generation (Pipeline Runs Session Setting runs_bind_iff runs_pure_iff)
open OpenApiTypes.Model
open OpenApiTypes.Output (Registry)
open OpenApiTypes.TypeScript (constNames)
open OpenApiTypes.Config (TransformersOptions)

variable {options : TransformersOptions} {api : Api} {setting : Setting}
  {convention : NamingConvention} {σ σ' : Session}

/-! ### Names -/

/-- A name that is given for a function. -/
def GivenFor (options : TransformersOptions) (f : Function) (name : String) : Prop :=
  ∃ p taken, f.reference? options = some p
    ∧ name = Registry.uniqueName taken (Registry.baseName p .camel)

/-- A name that is given for a function of a model that has a schema. -/
def FunctionName (options : TransformersOptions) (api : Api) (name : String) : Prop :=
  ∃ f : Function, f.Stands api ∧ GivenFor options f name

/-- The name that the type of the responses of an operation asks for. -/
def responseBase (convention : NamingConvention) (op : Operation) : String :=
  Registry.baseName (Types.operationReference op.id .response) convention

/-- A name that is given for the type of the responses of an operation. -/
def ResponseTypeName (convention : NamingConvention) (op : Operation) (name : String) : Prop :=
  ∃ taken, name = Registry.uniqueName taken (responseBase convention op)

/-! ### Files -/

/-- The names in a file of what it imports. -/
def importedNames (file : Output.File) : List String :=
  file.imports.values.flatMap fun imports => imports.values.map Output.Import.localName

/-- The constants of a file have names that are given for functions, and what it imports has names
there that are given for the types of responses. -/
structure Sourced (options : TransformersOptions) (api : Api) (convention : NamingConvention)
    (file : Output.File) : Prop where
  constants : ∀ n ∈ constNames file.nodes, FunctionName options api n
  imports : ∀ n ∈ importedNames file, ∃ op ∈ api.operations, ResponseTypeName convention op n

lemma Sourced.add {file : Output.File} (h : Sourced options api convention file)
    {s : TypeScript.Stmt} {name : String} (hs : s.constName? = some name)
    (hname : FunctionName options api name) :
    Sourced options api convention (file.add s) where
  constants := by
    intro n hn
    have happend : constNames (file.add s).nodes = constNames file.nodes ++ constNames [s] :=
      TypeScript.constNames_append file.nodes [s]
    rw [happend, List.mem_append] at hn
    rcases hn with hn | hn
    · exact h.constants n hn
    · obtain rfl : n = name := by simpa [constNames, hs] using hn
      exact hname
  imports := h.imports

/-- An import brings in one name at most. -/
lemma mem_importedNames_import_ {file : Output.File} {module n : String} {i : Output.Import}
    (h : n ∈ importedNames (file.import_ module i).2) :
    n = i.localName ∨ n ∈ importedNames file := by
  obtain ⟨imports, himports, hn⟩ := List.mem_flatMap.mp h
  obtain ⟨j, hj, rfl⟩ := List.mem_map.mp hn
  have hknown : ∀ known ∈ file.imports.values, j ∈ known.values →
      j.localName ∈ importedNames file := fun known hknown hj =>
    List.mem_flatMap.mpr ⟨known, hknown, List.mem_map_of_mem hj⟩
  rw [Output.File.import_] at himports
  split at himports
  · exact .inr (hknown imports himports hj)
  · rcases Entries.mem_values_put himports with rfl | himports
    · rcases Entries.mem_values_put hj with rfl | hj
      · exact .inl rfl
      · cases hmodule : file.imports.get? module with
        | none => simp [hmodule, Entries.values] at hj
        | some known =>
          rw [hmodule, Option.getD_some] at hj
          exact .inr (hknown known (List.mem_map_of_mem (Entries.mem_of_get? hmodule)) hj)
    · exact .inr (hknown imports himports hj)

lemma Sourced.import_ {file : Output.File} (h : Sourced options api convention file)
    (module : String) {i : Output.Import}
    (hi : ∃ op ∈ api.operations, ResponseTypeName convention op i.localName) :
    Sourced options api convention (file.import_ module i).2 where
  constants := by
    have hnodes : (file.import_ module i).2.nodes = file.nodes := by
      rw [Output.File.import_]
      split <;> rfl
    rw [hnodes]
    exact h.constants
  imports := by
    intro n hn
    rcases mem_importedNames_import_ hn with rfl | hn
    · exact hi
    · exact h.imports n hn

/-! ### Sessions -/

/-- The names of functions and of types are made under the conventions of their files, and the file
of transformers is sourced. -/
structure Named (options : TransformersOptions) (api : Api) (convention : NamingConvention)
    (σ : Session) : Prop where
  functions : σ.registry.Uniform fileId .camel
  types : σ.registry.Uniform Types.fileId convention
  file : ∀ file, σ.files.get? fileId = some file → Sourced options api convention file

lemma Named.store (h : Named options api convention σ) {file : Output.File}
    (hfile : Sourced options api convention file) :
    Named options api convention { σ with files := σ.files.put fileId file } where
  functions := h.functions
  types := h.types
  file := by
    intro file' hfile'
    obtain rfl : file = file' := by
      simpa [Entries.get?_put_self] using hfile'
    exact hfile

/-- Every step of the generator keeps the names of its file so. -/
lemma kept_sourced (setting : Setting) (options : TransformersOptions)
    (convention : NamingConvention) :
    Kept setting options (Named options setting.model convention) (GivenFor options)
      (ResponseTypeName convention) where
  warn := by
    intro location message σ a σ' hrun hσ
    obtain rfl := Generation.runs_warn_iff.mp hrun
    exact ⟨hσ.functions, hσ.types, hσ.file⟩
  request := by
    intro f p hf hreference σ i σ' hrun hσ
    obtain ⟨rfl, rfl⟩ := Generation.runs_request_iff.mp hrun
    refine ⟨⟨hσ.functions.request _ _ _, hσ.types.request _ _ _, hσ.file⟩, fun name hname => ?_⟩
    obtain ⟨taken, htaken⟩ := hσ.functions.exists_taken hname
    exact ⟨p, taken, hreference, htaken⟩
  requireName := by
    intro op hop σ name σ' hrun hσ
    obtain ⟨hname, rfl⟩ := Generation.runs_requireName_iff.mp hrun
    obtain ⟨taken, htaken⟩ := hσ.types.made (Registry.status?_of_name? hname)
    exact ⟨hσ, taken, htaken⟩
  suppress := by
    intro p σ a σ' hrun hσ
    obtain ⟨r, hr, rfl⟩ := Generation.runs_suppress_iff.mp hrun
    exact ⟨hσ.functions.suppress? hr, hσ.types.suppress? hr, hσ.file⟩
  helper := by
    intro f name hstands hname body σ a σ' hrun hσ
    obtain ⟨file, hfile, rfl⟩ := Generation.runs_addTo_iff.mp hrun
    exact hσ.store ((hσ.file file hfile).add rfl ⟨f, hstands, hname⟩)
  transformer := by
    intro op name type hstands hname htype body σ a σ' hrun hσ
    obtain ⟨types, σ₁, hrequire, hrest⟩ := runs_bind_iff.mp hrun
    obtain ⟨-, rfl⟩ := Generation.runs_requireFile_iff.mp hrequire
    obtain ⟨file, σ₂, hrequire, hstore⟩ := runs_bind_iff.mp hrest
    obtain ⟨hfile, rfl⟩ := Generation.runs_requireFile_iff.mp hrequire
    obtain rfl := Generation.runs_storeFile_iff.mp hstore
    have himported := (hσ.file file hfile).import_ (Output.relativeModule file.path types.path)
      (i := { name := type, typeOnly := true }) ⟨op, hstands.belongsTo, htype⟩
    exact hσ.store (himported.add rfl ⟨.response op, hstands, hname⟩)

/-! ### The whole file -/

/-- Before the generator runs, nothing is named in its file. -/
lemma sourced_run (htypes : σ.registry.Uniform Types.fileId convention)
    (hnames : ∀ p ns, σ.registry.status? p ns fileId = none) {u : Unit}
    (hrun : Runs (run setting options) σ u σ') :
    Named options setting.model convention σ' := by
  obtain ⟨_, σ₁, hrequire, hrest⟩ := runs_bind_iff.mp hrun
  obtain ⟨-, rfl⟩ := Generation.runs_requireFile_iff.mp hrequire
  obtain ⟨_, σ₁, hcreate, hrest⟩ := runs_bind_iff.mp hrest
  obtain rfl := Generation.runs_createFile_iff.mp hcreate
  refine (kept_sourced setting options convention).forEach hrest ⟨?_, ?_, ?_⟩
  · exact Registry.uniform_registerFile hnames .camel
  · exact htypes.registerFile_of_ne (by decide) .camel
  · intro file hfile
    obtain rfl : Output.File.create .. = file := by
      simpa [Entries.get?_put_self] using hfile
    exact ⟨by simp [Output.File.create, constNames],
      by simp [Output.File.create, importedNames, Entries.values]⟩

/-- The constants of the file of transformers have names that are given for functions of the model,
under camel case, and its imports have names that are given for types of responses, under the
convention of the file of types. -/
theorem sourced_of_session {config : Config} {pipeline : Pipeline} {types : Config.TypesOptions}
    {file : Output.File} (hp : Pipeline.ofConfig config = .ok pipeline)
    (hmem : .transformers options ∈ config.generators) (htypes : .types types ∈ pipeline)
    (hσ : pipeline.session ⟨api, config⟩ = .ok σ) (hfile : σ.files.get? fileId = some file) :
    Sourced options api types.convention file := by
  obtain ⟨o, σ₁, rfl, hrunTypes, hrun, hnames⟩ := exists_runs_of_session hp hmem hσ
  obtain rfl : types = o := by simpa using htypes
  have huniform := Types.uniform_run hrunTypes fun p ns => Registry.status?_nil p ns _
  exact (sourced_run huniform hnames hrun).file file hfile

end OpenApiTypes.Transformers
