/-
Schemas as a document declares them.

* `Spec.Kind`, `Spec.Types`: the names a schema's `type` may hold;
* `Spec.Position`: what may stand where a schema is expected: a reference, a boolean or a schema;
* `Spec.Schema`: a schema of the 3.0 dialect or of later ones;
* `Spec.Bounds`, `Spec.Annotations`: its constraints and its documentation.
-/
import OpenApiTypes.Json.Value

namespace OpenApiTypes.Spec

/-- A name in a schema's `type`. -/
inductive Kind where
  | string
  | number
  | integer
  | boolean
  | array
  | object
  | null
  /-- Any other name. -/
  | unknown
deriving DecidableEq, Repr

/-- The names under which kinds are written. -/
def Kind.name : Kind → String
  | string => "string"
  | number => "number"
  | integer => "integer"
  | boolean => "boolean"
  | array => "array"
  | object => "object"
  | null => "null"
  | unknown => "unknown"

/-- The kinds that have a name of their own. -/
def Kind.named : List Kind := [string, number, integer, boolean, array, object, null]

/-- The kind of a name. -/
def Kind.ofName (s : String) : Kind := (named.find? fun k => k.name == s).getD unknown

/-- The `type` of a schema. -/
inductive Types where
  | single (kind : Kind)
  | several (kinds : List Kind)
deriving DecidableEq, Repr

/-- What may stand where something is expected that other places can refer to. -/
inductive RefOr (α : Type) where
  | ref (pointer : String)
  | item (value : α)
deriving Repr

/-- What may stand where a schema is expected. -/
inductive Position (σ : Type) where
  | ref (pointer : String)
  | bool (value : Bool)
  | inline (schema : σ)
deriving Repr

/-- An exclusive bound: a flag that makes the inclusive bound exclusive, or a bound of its own. -/
inductive ExclusiveBound where
  | flag (value : Bool)
  | bound (value : Binary64)
deriving DecidableEq, Repr

/-- Constraints on numbers, texts and arrays. -/
structure Bounds where
  minimum : Option Binary64 := none
  maximum : Option Binary64 := none
  exclusiveMinimum : Option ExclusiveBound := none
  exclusiveMaximum : Option ExclusiveBound := none
  minLength : Option Nat := none
  maxLength : Option Nat := none
  pattern : Option String := none
  minItems : Option Nat := none
  maxItems : Option Nat := none
deriving DecidableEq, Repr

/-- What a schema says about itself. -/
structure Annotations where
  title : Option String := none
  description : Option String := none
  defaultValue : Option Json := none
  example_ : Option Json := none
  deprecated : Bool := false
  readOnly : Bool := false
  writeOnly : Bool := false
deriving Repr

/-- A schema. -/
structure Schema where
  types : Option Types := none
  format : Option String := none
  /-- Only in 3.0; later versions list null among the types. -/
  nullable : Bool := false
  properties : List (String × Position Schema) := []
  /-- The names of required properties. -/
  required : List String := []
  additionalProperties : Option (Position Schema) := none
  items : Option (Position Schema) := none
  prefixItems : List (Position Schema) := []
  allOf : List (Position Schema) := []
  oneOf : List (Position Schema) := []
  anyOf : List (Position Schema) := []
  enumValues : List Json := []
  constValue : Option Json := none
  bounds : Bounds := {}
  annotations : Annotations := {}
deriving Repr

instance : Inhabited Schema := ⟨{}⟩

end OpenApiTypes.Spec
