/-
Schemas of the model: one shape for every dialect.

* `Model.Shape`: what kind of values a schema describes;
* `Model.Schema`: a schema. One with a pointer leaves everything to a component, and one with
  several items says how they combine;
* `Model.Schema.composed`, `Model.Schema.setItems`: how items get their operator;
* `Model.Schema.admitsNull`, `Model.Schema.orNull`: schemas that hold null, and a schema widened
  by null.
-/
import OpenApiTypes.Json.Value

namespace OpenApiTypes.Model

/-- What kind of values a schema describes. -/
inductive Shape where
  | array
  | boolean
  | enum
  | integer
  | never
  | null
  | number
  | object
  | string
  | tuple
  | undefined
  | unknown
  | void
deriving DecidableEq, Repr

namespace Shape

/-- All shapes. -/
def all : List Shape :=
  [array, boolean, enum, integer, never, null, number, object, string, tuple, undefined, unknown,
    void]

/-- The name of a shape. -/
def name : Shape → String
  | array => "array"
  | boolean => "boolean"
  | enum => "enum"
  | integer => "integer"
  | never => "never"
  | null => "null"
  | number => "number"
  | object => "object"
  | string => "string"
  | tuple => "tuple"
  | undefined => "undefined"
  | unknown => "unknown"
  | void => "void"

/-- The shape of a name. -/
def ofName? (s : String) : Option Shape := all.find? fun shape => shape.name == s

/-- Shapes that a field for paging through results may have. -/
def isPrimitive : Shape → Bool
  | boolean | integer | number | string => true
  | _ => false

/-- Shapes that only ever widen another one. -/
def isNullish : Shape → Bool
  | null | void => true
  | _ => false

end Shape

/-- How several items combine: a value fits all of them, or one of them. -/
inductive Operator where
  | and
  | or
deriving DecidableEq, Repr

/-- Whether a property occurs only in responses or only in requests. -/
inductive Access where
  | read
  | write
deriving DecidableEq, Repr

/-- Constraints on values. -/
structure Facets where
  format : Option String := none
  pattern : Option String := none
  minimum : Option Binary64 := none
  maximum : Option Binary64 := none
  exclusiveMinimum : Option Binary64 := none
  exclusiveMaximum : Option Binary64 := none
  minLength : Option Nat := none
  maxLength : Option Nat := none
  minItems : Option Nat := none
  maxItems : Option Nat := none
deriving DecidableEq, Repr

/-- What is said about a schema. -/
structure Documentation where
  defaultValue : Option Json := none
  title : Option String := none
  description : Option String := none
  deprecated : Bool := false
  example_ : Option Json := none
  access : Option Access := none
deriving Repr

/-- A schema. -/
structure Schema where
  /-- The component that the schema stands for. -/
  pointer : Option String := none
  shape : Option Shape := none
  properties : List (String × Schema) := []
  /-- The names of required properties. -/
  required : List String := []
  additionalProperties : Option Schema := none
  items : List Schema := []
  /-- How the items combine, if there are several. -/
  operator? : Option Operator := none
  facets : Facets := {}
  constValue : Option Json := none
  documentation : Documentation := {}
deriving Repr

namespace Schema

instance : Inhabited Schema := ⟨{}⟩

/-- A schema that says nothing but its shape. -/
def ofShape (shape : Shape) : Schema := { shape := some shape }

/-- A schema that stands for a component. -/
def reference (pointer : String) : Schema := { pointer := some pointer }

/-- The schema with other items. The operator is recorded only when there are several. -/
def setItems (s : Schema) (items : List Schema) (operator : Operator) : Schema :=
  { s with items, operator? := if items.length > 1 then some operator else none }

/-- A composition of items; a single item is its own composition. -/
def composed (items : List Schema) (operator : Operator) : Schema :=
  match items with
  | [item] => item
  | _ => ({} : Schema).setItems items operator

/-- How the items combine. -/
def operator (s : Schema) : Operator := s.operator?.getD .or

/-- Whether the schema stands for a component. -/
def isReference (s : Schema) : Bool := s.pointer.isSome

/-- Whether the schema has a certain shape. -/
def hasShape (s : Schema) (shape : Shape) : Bool := s.shape == some shape

/-- Whether the schema or one of its items is null. -/
def admitsNull (s : Schema) : Bool :=
  s.hasShape .null || s.items.any fun item => item.hasShape .null

/-- The schema without what a reader of an outer schema should see. -/
def undocumented (s : Schema) : Schema :=
  { s with
    documentation := { s.documentation with
      title := none, description := none, deprecated := false, access := none } }

/-- The schema with the documentation of another one in place of its own. -/
def documentedAs (s other : Schema) : Schema :=
  { s with
    documentation := { s.documentation with
      title := other.documentation.title
      description := other.documentation.description
      deprecated := other.documentation.deprecated
      access := other.documentation.access } }

/-- Whether the schema is a union that can take up one more item. -/
def isOpenUnion (s : Schema) : Bool :=
  s.pointer.isNone && s.shape.isNone && s.operator == .or && !s.items.isEmpty

/-- The schema widened by null. A union takes up null as one more item; any other schema becomes
the first item of a new union, which takes over its documentation. -/
def orNull (s : Schema) : Schema :=
  if s.admitsNull then s
  else if s.isOpenUnion then s.setItems (s.items ++ [ofShape .null]) .or
  else (composed [s.undocumented, ofShape .null] .or).documentedAs s

end Schema

end OpenApiTypes.Model
