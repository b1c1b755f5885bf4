/-
Configurations read from trees of values.

* `Config.ofJson?`: a configuration; settings that are missing have their defaults;
* `Config.Generator.ofJson?`: a generator, which its name tells.
-/
import OpenApiTypes.Config.Basic
import OpenApiTypes.Json.Record

namespace OpenApiTypes.Config

open Json (record? required? defaulted? list? entries? string? bool? variant? lenientVariant?)

/-- The strategy of a name. -/
def strategyOfName? (s : String) : Option NamingStrategy :=
  if s == "use_operation_id" then some .declaredId
  else if s == "use_route_based" then some .route
  else none

/-- The name of a strategy. -/
def strategyName : NamingStrategy → String
  | .declaredId => "use_operation_id"
  | .route => "use_route_based"

/-! ### Generators -/

/-- The options of the generator of types, in order. -/
def TypesOptions.fields : List String := ["output", "case", "enums", "export_from_index"]

/-- The options of the generator of types. -/
def TypesOptions.ofJson? (v : Json) : Option TypesOptions := do
  let fields ← record? TypesOptions.fields 0 v
  let d : TypesOptions := {}
  some {
    output := ← defaulted? fields "output" d.output string?
    convention := ←
      defaulted? fields "case" d.convention (lenientVariant? NamingConvention.ofLabel?)
    enums := ← defaulted? fields "enums" d.enums bool?
    exportFromIndex := ← defaulted? fields "export_from_index" d.exportFromIndex bool? }

/-- The options of the generator of transformers, in order. -/
def TransformersOptions.fields : List String :=
  ["output", "dates", "bigint", "export_from_index", "schema_name", "response_name"]

/-- The options of the generator of transformers. -/
def TransformersOptions.ofJson? (v : Json) : Option TransformersOptions := do
  let fields ← record? TransformersOptions.fields 0 v
  let d : TransformersOptions := {}
  some {
    output := ← defaulted? fields "output" d.output string?
    dates := ← defaulted? fields "dates" d.dates bool?
    bigint := ← defaulted? fields "bigint" d.bigint bool?
    exportFromIndex := ← defaulted? fields "export_from_index" d.exportFromIndex bool?
    schemaName := ← defaulted? fields "schema_name" d.schemaName string?
    responseName := ← defaulted? fields "response_name" d.responseName string? }

/-- A generator of a kind with its options. -/
def Generator.ofOptions? (kind : GeneratorKind) (options : Json) : Option Generator :=
  match kind with
  | .types => (TypesOptions.ofJson? options).map .types
  | .transformers => (TransformersOptions.ofJson? options).map .transformers

/-- The field that tells which generator is meant. -/
def generatorTag : String := "name"

/-- A generator. Its name is a member among its options, or the first item before them. -/
def Generator.ofJson? : Json → Option Generator
  | .obj members => do
    let kind ← GeneratorKind.ofName? (← required? members generatorTag string?)
    Generator.ofOptions? kind (.obj (members.filter fun m => m.1 != generatorTag))
  | .arr (tag :: options) => do
    Generator.ofOptions? (← GeneratorKind.ofName? (← tag.string?)) (.arr options)
  | _ => none

/-! ### Settings -/

/-- The settings on names, in order. -/
def Names.fields : List String := ["strategy", "aliases"]

/-- How operations are named. -/
def Names.ofJson? (v : Json) : Option Names := do
  let fields ← record? Names.fields 0 v
  some {
    strategy := ← defaulted? fields "strategy" .declaredId (variant? strategyOfName?)
    aliases := ← defaulted? fields "aliases" [] (entries? string?) }

/-- The settings on paging, in order. -/
def pagingFields : List String := ["keywords"]

/-- The names of fields that page through results. -/
def keywordsOfJson? (v : Json) : Option (List String) := do
  let fields ← record? pagingFields 0 v
  defaulted? fields "keywords" defaultKeywords (list? string?)

/-- The settings on files, in order. -/
def OutputOptions.fields : List String := ["index", "header"]

/-- What files are generated like. -/
def OutputOptions.ofJson? (v : Json) : Option OutputOptions := do
  let fields ← record? OutputOptions.fields 0 v
  some {
    index := ← defaulted? fields "index" true bool?
    header := ← defaulted? fields "header" true bool? }

/-- All settings, in order. -/
def fields : List String :=
  ["input", "output", "naming", "pagination", "output_options", "plugins"]

/-- A configuration. -/
def ofJson? (v : Json) : Option Config := do
  let fields ← record? fields 0 v
  let d : Config := {}
  some {
    input := ← defaulted? fields "input" d.input string?
    output := ← defaulted? fields "output" d.output string?
    naming := ← defaulted? fields "naming" {} Names.ofJson?
    keywords := ← defaulted? fields "pagination" defaultKeywords keywordsOfJson?
    outputOptions := ← defaulted? fields "output_options" {} OutputOptions.ofJson?
    generators := ← defaulted? fields "plugins" d.generators (list? Generator.ofJson?) }

end OpenApiTypes.Config
