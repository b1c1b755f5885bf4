/-
Functions that no parameter and no import hides.

* `Transformers.Uncaptured`: no constant of a file has the name of a parameter or of something that
  the file imports;
* `Transformers.Asks`: a function of a model asks for a name;
* `Transformers.uncaptured_of_session`: a constant of the file of transformers is captured only if
  a function asks for that, and under templates that end clear none is;
* `Transformers.exists_captured`: under other templates some are.
-/
import OpenApiTypes.Proofs.Transformers.Module
import OpenApiTypes.Proofs.Transformers.Provenance

namespace OpenApiTypes.Transformers

open OpenApiTypes.Generation (Pipeline Session)
open OpenApiTypes.Model
open OpenApiTypes.Naming (EndsIn KeptLetters)
open OpenApiTypes.Output (Registry)
open OpenApiTypes.TypeScript (constNames)
open OpenApiTypes.Config (TransformersOptions)

variable {options : TransformersOptions} {api : Api} {convention : NamingConvention}
  {file : Output.File}

/-! ### Capture -/

/-- No constant of a file has the name of a parameter of its functions, or that of something
imported. -/
structure Uncaptured (file : Output.File) : Prop where
  parameters : ∀ n ∈ constNames file.nodes, n ∉ ["data", "item"]
  imports : ∀ n ∈ constNames file.nodes, n ∉ importedNames file

/-- A function of a model asks for a name. -/
def Asks (options : TransformersOptions) (api : Api) (base : String) : Prop :=
  ∃ (f : Function) (p : String), f.Stands api ∧ f.reference? options = some p
    ∧ Registry.baseName p .camel = base

/-- A name that is given for a function is the one that it asks for, with or without a number. -/
lemma FunctionName.exists_asks {n : String} (h : FunctionName options api n) :
    ∃ base taken, Asks options api base ∧ n = Registry.uniqueName taken base := by
  obtain ⟨f, hstands, p, taken, hreference, hn⟩ := h
  exact ⟨_, taken, ⟨f, p, hstands, hreference, rfl⟩, hn⟩

namespace Sourced

variable (h : Sourced options api convention file) {n : String} (hn : n ∈ constNames file.nodes)
include h hn

/-- A constant has the name of a parameter only if a function asks for it. -/
lemma asks_of_parameter (hparameter : n ∈ ["data", "item"]) : Asks options api n := by
  obtain ⟨base, taken, hasks, rfl⟩ := (h.constants n hn).exists_asks
  rwa [uniqueName_eq_of_parameter hparameter]

/-- A constant has the name of an import only if a function and a type of responses ask for names
that differ in numbers at most. -/
lemma exists_asks_of_import (himported : n ∈ importedNames file) :
    ∃ base, Asks options api base ∧ ∃ op ∈ api.operations,
      Registry.stem base = Registry.stem (responseBase convention op) := by
  obtain ⟨base, taken, hasks, hname⟩ := (h.constants n hn).exists_asks
  obtain ⟨op, hop, taken', hname'⟩ := h.imports n himported
  refine ⟨base, hasks, op, hop, ?_⟩
  calc Registry.stem base
      = Registry.stem n := by rw [hname, Registry.stem_uniqueName]
    _ = Registry.stem (responseBase convention op) := by rw [hname', Registry.stem_uniqueName]

end Sourced

/-! ### Endings -/

lemma keptLetters_e : KeptLetters ['e', 'E'] := by decide +kernel

/-- The types of responses are named `…Response`, whatever the id of the operation. -/
lemma endsIn_responseBase (convention : NamingConvention) (op : Operation) :
    EndsIn ['e', 'E'] (responseBase convention op).toList := by
  have hlasting : Pointer.Lasting "Response".toList := by decide
  refine Registry.endsIn_baseName keptLetters_e convention ⟨'e', by decide, ?_⟩
  refine List.IsSuffix.trans (by decide) (hlasting.suffix_lastName ?_)
  rw [Types.operationReference, String.toList_append]
  exact List.suffix_append _ _

/-- Templates that end clear give no function a name that something else in the file has. -/
lemma EndsClear.uncaptured (h : EndsClear options)
    (hsourced : Sourced options api convention file) : Uncaptured file where
  parameters := by
    intro n hn
    obtain ⟨f, -, p, taken, hreference, rfl⟩ := hsourced.constants n hn
    exact h.not_parameter hreference taken .camel
  imports := by
    intro n hn himported
    obtain ⟨_, ⟨f, p, -, hreference, rfl⟩, op, -, hstem⟩ :=
      hsourced.exists_asks_of_import hn himported
    have hbase := h.endsIn_baseName hreference .camel
    have hresponse := endsIn_responseBase convention op
    rw [Registry.stem_of_endsIn keptLetters_clearLetters hbase,
      Registry.stem_of_endsIn keptLetters_e hresponse] at hstem
    rw [← hstem] at hresponse
    obtain ⟨c, hc, hc'⟩ := hbase.exists_mem hresponse
    have hdisjoint : clearLetters ∩ ['e', 'E'] = [] := by decide +kernel
    exact List.not_mem_nil (hdisjoint ▸ List.mem_inter_iff.mpr ⟨hc, hc'⟩)

/-! ### Sessions -/

/-- A constant of the file of transformers has the name of a parameter only if a function of the
model asks for that very name, and the name of an import only if the type of the responses of some
operation asks for what a function asks for, numbers aside. Under templates that end clear, as those
of the defaults do, there is no such constant, whatever the model is and whichever convention the
file of types has. -/
theorem uncaptured_of_session {config : Config} {pipeline : Pipeline} {types : Config.TypesOptions}
    {σ : Session} (hp : Pipeline.ofConfig config = .ok pipeline)
    (hmem : .transformers options ∈ config.generators) (htypes : .types types ∈ pipeline)
    (hσ : pipeline.session ⟨api, config⟩ = .ok σ) (hfile : σ.files.get? fileId = some file) :
    (∀ n ∈ constNames file.nodes, n ∈ ["data", "item"] → Asks options api n)
    ∧ (∀ n ∈ constNames file.nodes, n ∈ importedNames file → ∃ base, Asks options api base
      ∧ ∃ op ∈ api.operations,
        Registry.stem base = Registry.stem (responseBase types.convention op))
    ∧ (EndsClear options → Uncaptured file) := by
  have hsourced := sourced_of_session hp hmem htypes hσ hfile
  exact ⟨fun n hn hparameter => hsourced.asks_of_parameter hn hparameter,
    fun n hn himported => hsourced.exists_asks_of_import hn himported,
    fun hclear => hclear.uncaptured hsourced⟩

/-- A component `Data` with a date in it, which one operation answers with. -/
def dataModel : Api :=
  modelOf [("Data", { shape := some .object, required := ["at"], properties := [
      ("at", { shape := some .string, facets := { format := some "date-time" } })] })]
    [answering "/a" "a" (.reference "#/components/schemas/Data")]

/-- The names that the file of transformers declares, and those of what it imports. -/
def namesOf (api : Api) (config : Config) (pipeline : Pipeline) :
    Option (List String × List String) := do
  let σ ← (pipeline.session ⟨api, config⟩).toOption
  let file ← σ.files.get? fileId
  return (constNames file.nodes, importedNames file)

lemma exists_file_of_namesOf {config : Config} {pipeline : Pipeline} {consts imported : List String}
    (h : namesOf api config pipeline = some (consts, imported)) : ∃ σ file,
      pipeline.session ⟨api, config⟩ = .ok σ ∧ σ.files.get? fileId = some file
        ∧ constNames file.nodes = consts ∧ importedNames file = imported := by
  obtain ⟨σ, hσ, h⟩ := Option.bind_eq_some_iff.mp h
  obtain ⟨file, hfile, h⟩ := Option.bind_eq_some_iff.mp h
  obtain ⟨rfl, rfl⟩ := Prod.mk.inj (Option.some.inj h)
  exact ⟨σ, file, Generation.eq_ok_of_toOption hσ, hfile, rfl, rfl⟩

theorem uncaptured_of_session_data :
    ∃ pipeline σ file, Pipeline.ofConfig { generators := [.transformers {}] } = .ok pipeline
      ∧ pipeline.session ⟨dataModel, { generators := [.transformers {}] }⟩ = .ok σ
      ∧ σ.files.get? fileId = some file
      ∧ constNames file.nodes = ["dataSchemaResponseTransformer", "aResponseTransformer"]
      ∧ importedNames file = ["AResponse"] ∧ EndsClear {} ∧ Uncaptured file := by
  have hconfig : Pipeline.ofConfig { generators := [.transformers {}] }
      = .ok [.types {}, .transformers {}] := rfl
  have hnames : namesOf dataModel { generators := [.transformers {}] }
      [.types {}, .transformers {}]
      = some (["dataSchemaResponseTransformer", "aResponseTransformer"], ["AResponse"]) := by
    decide +kernel
  obtain ⟨σ, file, hσ, hfile, hconsts, himported⟩ := exists_file_of_namesOf hnames
  have hclear : EndsClear {} := DefaultNames.endsClear ⟨rfl, rfl⟩
  have huncaptured := (uncaptured_of_session hconfig (List.mem_singleton_self _) List.mem_cons_self
    hσ hfile).2.2 hclear
  exact ⟨_, σ, file, hconfig, hσ, hfile, hconsts, himported, hclear, huncaptured⟩

/-- Helpers have the names of their components. -/
def bareNames : Config := { generators := [.transformers { schemaName := "{{name}}" }] }

/-- Transformers have names like those of types in camel case. -/
def responseNames : Config where
  generators := [.types { convention := .camel },
    .transformers { responseName := "{{name}}Response" }]

/-- Templates without an ending of their own pass the check. The helper of a component `Data` is
then named like the argument of the functions that call it, and the transformer of an operation
like the type that it returns. -/
theorem exists_captured :
    (∃ pipeline σ file, bareNames.check = .ok () ∧ Pipeline.ofConfig bareNames = .ok pipeline
      ∧ pipeline.session ⟨dataModel, bareNames⟩ = .ok σ ∧ σ.files.get? fileId = some file
      ∧ "data" ∈ constNames file.nodes ∧ ¬ Uncaptured file)
    ∧ ∃ pipeline σ file, responseNames.check = .ok ()
      ∧ Pipeline.ofConfig responseNames = .ok pipeline
      ∧ pipeline.session ⟨dataModel, responseNames⟩ = .ok σ ∧ σ.files.get? fileId = some file
      ∧ "aResponse" ∈ constNames file.nodes ∧ "aResponse" ∈ importedNames file
      ∧ ¬ Uncaptured file := by
  have hbare : namesOf dataModel bareNames [.types {}, .transformers {
      schemaName := "{{name}}" }]
      = some (["data", "aResponseTransformer"], ["AResponse"]) := by decide +kernel
  have hresponse : namesOf dataModel responseNames [.types { convention := .camel },
      .transformers { responseName := "{{name}}Response" }]
      = some (["dataSchemaResponseTransformer", "aResponse"], ["aResponse"]) := by decide +kernel
  obtain ⟨σ, file, hσ, hfile, hconsts, -⟩ := exists_file_of_namesOf hbare
  obtain ⟨σ', file', hσ', hfile', hconsts', himported'⟩ := exists_file_of_namesOf hresponse
  have hdata : "data" ∈ constNames file.nodes := by simp [hconsts]
  have hconst : "aResponse" ∈ constNames file'.nodes := by simp [hconsts']
  have himport : "aResponse" ∈ importedNames file' := by simp [himported']
  exact ⟨⟨_, σ, file, by decide +kernel, rfl, hσ, hfile, hdata,
      fun h => h.parameters _ hdata (by decide)⟩,
    _, σ', file', by decide +kernel, rfl, hσ', hfile', hconst, himport,
    fun h => h.imports _ hconst himport⟩

end OpenApiTypes.Transformers
