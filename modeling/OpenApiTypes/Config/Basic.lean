/-
Configuration of a run.

* `Config`: all settings, with their defaults;
* `Config.Generator`: a generator that is switched on, with its options;
* `Config.Problem`: what can be wrong with a configuration, and what is said of it;
* `Config.check`: finds what would otherwise fail late;
* `Config.fileName`, `Config.initialText`: the file that holds a configuration, and its contents
  at the start.
-/
import OpenApiTypes.Entries
import OpenApiTypes.Naming.OperationId
import OpenApiTypes.Naming.Template
import OpenApiTypes.Text.Blank

namespace OpenApiTypes

namespace Config

/-! ### Generators -/

/-- Options of the generator of types. -/
structure TypesOptions where
  /-- The path of the file, relative to the output directory. -/
  output : String := "types"
  convention : NamingConvention := .pascal
  /-- Whether enumerations become constants too. -/
  enums : Bool := false
  exportFromIndex : Bool := true
deriving DecidableEq, Repr

/-- Options of the generator of response transformers. -/
structure TransformersOptions where
  /-- The path of the file, relative to the output directory. -/
  output : String := "transformers"
  /-- Whether dates become objects. -/
  dates : Bool := true
  /-- Whether long integers become big integers. -/
  bigint : Bool := false
  exportFromIndex : Bool := true
  /-- The template for the helper of a schema. -/
  schemaName : String := "\x7b\x7bname\x7d\x7dSchemaResponseTransformer"
  /-- The template for the transformer of an operation. -/
  responseName : String := "\x7b\x7bname\x7d\x7dResponseTransformer"
deriving DecidableEq, Repr

/-- The generators there are. -/
inductive GeneratorKind where
  | types
  | transformers
deriving DecidableEq, Repr

/-- The name of a generator. -/
def GeneratorKind.name : GeneratorKind → String
  | types => "typescript"
  | transformers => "transformers"

/-- The generator of a name. -/
def GeneratorKind.ofName? (s : String) : Option GeneratorKind :=
  [types, transformers].find? fun k => k.name == s

/-- A generator that is switched on, with its options. -/
inductive Generator where
  | types (options : TypesOptions)
  | transformers (options : TransformersOptions)
deriving DecidableEq, Repr

namespace Generator

/-- Which generator it is. -/
def kind : Generator → GeneratorKind
  | types _ => .types
  | transformers _ => .transformers

/-- The name of the generator. -/
def name (g : Generator) : String := g.kind.name

/-- A generator with the options it has unless told otherwise. -/
def ofKind : GeneratorKind → Generator
  | .types => types {}
  | .transformers => transformers {}

end Generator

/-! ### Settings -/

/-- How operations are named. -/
structure Names where
  strategy : NamingStrategy := .declaredId
  /-- Other names for operations, by the name they would have. -/
  aliases : Entries String String := []
deriving DecidableEq, Repr

/-- What files are generated like. -/
structure OutputOptions where
  /-- Whether there is a file that exports from all others. -/
  index : Bool := true
  /-- Whether files begin with a notice. -/
  header : Bool := true
deriving DecidableEq, Repr

/-- Names of fields that page through results. -/
def defaultKeywords : List String := ["after", "before", "cursor", "offset", "page", "start"]

end Config

open Config in
/-- All settings. -/
structure Config where
  /-- The document. -/
  input : String := "openapi.yaml"
  /-- The output directory. -/
  output : String := "src/client"
  naming : Names := {}
  /-- Names of fields that page through results. -/
  keywords : List String := defaultKeywords
  outputOptions : OutputOptions := {}
  /-- The generators that are switched on. -/
  generators : List Generator := [.types {}, .transformers {}]
deriving DecidableEq, Repr

namespace Config

/-- The generator of a kind that is listed first. -/
def generator? (c : Config) (kind : GeneratorKind) : Option Generator :=
  c.generators.find? fun g => g.kind == kind

/-! ### Problems -/

/-- What can be wrong with a configuration. -/
inductive Problem where
  /-- The file cannot be read as text. -/
  | unreadable (path : String)
  /-- The text does not hold a configuration. -/
  | malformed (path : String)
  | emptyAlias (name : String)
  | emptyKeyword
  | invalidTemplate (generator template : String) (fault : Template.Fault)
  | duplicateGenerator (name : String)
deriving DecidableEq, Repr

/-- What is said of a template that gives no name. -/
def faultText : Template.Fault → String
  | .malformed => "the template cannot be rendered"
  | .unreferenced => "template must reference \x7b\x7bname\x7d\x7d"

/-- What is said of a problem. -/
def Problem.message : Problem → String
  | unreadable path => "failed to read config " ++ path
  | malformed path => "failed to parse config " ++ path
  | emptyAlias name => "alias for operation `" ++ name ++ "` must not be empty"
  | emptyKeyword => "pagination keyword list must not contain empty entries"
  | invalidTemplate generator template fault =>
    "invalid name template `" ++ template ++ "` for " ++ generator ++ ": " ++ faultText fault
  | duplicateGenerator name => "plugin `" ++ name ++ "` is configured more than once"

/-- The name that a template of a generator gives. -/
def renderName [Template.Engine] (generator template name : String) : Except Problem String :=
  match Template.nameFor template name with
  | .ok text => .ok text
  | .error fault => .error (.invalidTemplate generator template fault)

/-- Renders the templates of a generator once. -/
def Generator.check [Template.Engine] : Generator → Except Problem Unit
  | types _ => .ok ()
  | transformers o => do
    let _ ← renderName GeneratorKind.transformers.name o.schemaName "Sample"
    let _ ← renderName GeneratorKind.transformers.name o.responseName "Sample"

/-- Finds what would otherwise fail late: a blank alias, a blank keyword, or a template that gives
no names. -/
def check [Template.Engine] (c : Config) : Except Problem Unit :=
  match c.naming.aliases.find? fun (_, id) => Text.allBlank id with
  | some (name, _) => .error (.emptyAlias name)
  | none =>
    if c.keywords.any Text.allBlank then .error .emptyKeyword
    else c.generators.forM Generator.check

/-! ### The file -/

/-- The name of the file that holds the configuration of a project. -/
def fileName : String := ".apigen.yaml"

/-- The contents of the file at the start, line by line. -/
def initialLines : List String := [
  "# apigen configuration",
  "input: openapi.yaml   # path, URL, or scalar:@organization/project",
  "output: src/client",
  "",
  "naming:",
  "  strategy: use_operation_id  # use_operation_id | use_route_based",
  "  aliases: \x7b\x7d",
  "    # listPets: pets     # operation id → custom name",
  "",
  "pagination:",
  "  keywords: [after, before, cursor, offset, page, start]",
  "",
  "output_options:",
  "  index: true           # generate index.ts barrel exports",
  "  header: true          # prepend the auto-generated notice",
  "",
  "plugins:",
  "  - name: typescript",
  "    output: types",
  "    case: PascalCase    # camelCase | PascalCase | snake_case | SCREAMING_SNAKE_CASE | preserve",
  "    enums: false",
  "  - name: transformers",
  "    output: transformers",
  "    dates: true",
  "    bigint: false",
  "    # schema_name: \"\x7b\x7bname\x7d\x7dSchemaResponseTransformer\"",
  "    # response_name: \"\x7b\x7bname\x7d\x7dResponseTransformer\""]

/-- The contents of the file at the start. -/
def initialText : String := String.join (initialLines.map fun line => line ++ "\n")

end Config

end OpenApiTypes
