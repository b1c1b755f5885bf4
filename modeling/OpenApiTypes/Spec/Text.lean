/-
Documents read from text.

* `Spec.Source.ofJsonText`, `Spec.Source.ofYamlText`: the document of a text in JSON or in YAML;
* `Spec.ReadError.message`: what is said when there is none.
-/
import OpenApiTypes.Json.Reader
import OpenApiTypes.Spec.Document
import OpenApiTypes.Yaml.Value

namespace OpenApiTypes.Spec

/-- What is said when there is no document. -/
def ReadError.message : ReadError → String
  | yaml => "failed to parse YAML"
  | json => "failed to parse JSON"
  | document => "invalid OpenAPI document"
  | unsupportedVersion version => "unsupported OpenAPI version: " ++ version
  | missingField name => "missing required field: " ++ name

namespace Source

/-- The document of a text in JSON. -/
def ofJsonText (text : String) : Except ReadError Source :=
  match Json.ofText? text with
  | some tree => ofTree tree
  | none => .error .json

/-- The document of a text in YAML. -/
def ofYamlText (text : String) : Except ReadError Source :=
  match Yaml.read? text with
  | some tree => ofTree tree
  | none => .error .yaml

end Source

end OpenApiTypes.Spec
