/-
Configurations read from files.

* `Config.ofYaml?`: the configuration of a text in YAML;
* `Config.ofFile`: the configuration of a file, or what is wrong with it.
-/
import OpenApiTypes.Config.Reader
import OpenApiTypes.Text.Utf8
import OpenApiTypes.Yaml.Shape

namespace OpenApiTypes.Config

open Yaml (Leaf Shape)

/-- What is expected of the options of the generator of types. -/
def typesShape : List (String × Leaf) :=
  TypesOptions.fields.zip
    [.text, .choice (NamingConvention.all.map NamingConvention.label), .boolean, .boolean]

/-- What is expected of the options of the generator of transformers. -/
def transformersShape : List (String × Leaf) :=
  TransformersOptions.fields.zip [.text, .boolean, .boolean, .boolean, .text, .text]

/-- What is expected of a generator. -/
def generatorShape : Shape :=
  .tagged generatorTag
    [(GeneratorKind.types.name, typesShape), (GeneratorKind.transformers.name, transformersShape)]

/-- What is expected of a text. -/
def textShape : Shape := .leaf .text

/-- What is expected of the settings on names. -/
def namesShape : Shape :=
  .record (Names.fields.zip
    [.leaf (.choice ([NamingStrategy.declaredId, .route].map strategyName)),
      .dictionary textShape])

/-- What is expected of the settings on paging. -/
def pagingShape : Shape := .record (pagingFields.zip [.list textShape])

/-- What is expected of the settings on files. -/
def outputShape : Shape := .record (OutputOptions.fields.zip [.leaf .boolean, .leaf .boolean])

/-- What is expected of a configuration. -/
def shape : Shape :=
  .record (fields.zip
    [textShape, textShape, namesShape, pagingShape, outputShape, .list generatorShape])

/-- The configuration of a text in YAML. -/
def ofYaml? (text : String) : Option Config := do ofJson? (← Yaml.readShaped? shape text)

/-- The configuration of a file with these bytes, if it has any that can be read. -/
def ofFile (path : String) (bytes : Option (List UInt8)) : Except Problem Config :=
  match bytes.bind Utf8.decode? with
  | none => .error (.unreadable path)
  | some cs =>
    match ofYaml? (String.ofList cs) with
    | none => .error (.malformed path)
    | some c => do
      c.check
      .ok c

end OpenApiTypes.Config
