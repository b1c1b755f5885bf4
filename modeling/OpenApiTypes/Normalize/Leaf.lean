/-
The parts of a schema that need no look at other schemas.

* `Normalize.constant`, `Normalize.enumeration`: the schema of one value and of several;
* `Normalize.constrain`: the constraints on a primitive schema. A flag moves the inclusive bound,
  a bound of its own is taken as it is;
* `Normalize.document`: what a schema says about itself overrides what its base says.
-/
import OpenApiTypes.Model.Schema
import OpenApiTypes.Spec.Schema

namespace OpenApiTypes.Normalize

open OpenApiTypes.Model

/-- The shape of a value. -/
def shapeOf : Json → Shape
  | .null => .null
  | .bool _ => .boolean
  | .number (.int _) => .integer
  | .number (.float _) => .number
  | .str _ => .string
  | .arr _ | .obj _ => .unknown

/-- The schema of one value. -/
def constant (v : Json) : Schema := { shape := some (shapeOf v), constValue := some v }

/-- The schema of several values. -/
def enumeration (vs : List Json) : Schema :=
  (Schema.ofShape .enum).setItems (vs.map constant) .or

/-- The inclusive and the exclusive bound on one side. -/
def bounds (inclusive : Option Binary64) : Option Spec.ExclusiveBound →
    Option Binary64 × Option Binary64
  | some (.bound x) => (inclusive, some x)
  | some (.flag true) => (none, inclusive)
  | some (.flag false) | none => (inclusive, none)

/-- A primitive schema with the constraints that a schema declares. -/
def constrain (shape : Shape) (s : Spec.Schema) : Schema :=
  let (minimum, exclusiveMinimum) := bounds s.bounds.minimum s.bounds.exclusiveMinimum
  let (maximum, exclusiveMaximum) := bounds s.bounds.maximum s.bounds.exclusiveMaximum
  { shape := some shape
    facets := {
      format := s.format
      pattern := s.bounds.pattern
      minLength := s.bounds.minLength
      maxLength := s.bounds.maxLength
      minimum, maximum, exclusiveMinimum, exclusiveMaximum } }

/-- The first value if there is one, the second otherwise. -/
def override {α : Type} (new old : Option α) : Option α :=
  match new with
  | some v => some v
  | none => old

/-- A schema with annotations, which override what it says already. -/
def document (a : Spec.Annotations) (s : Schema) : Schema :=
  let d := s.documentation
  { s with
    documentation := {
      title := override a.title d.title
      description := override a.description d.description
      defaultValue := override a.defaultValue d.defaultValue
      example_ := override a.example_ d.example_
      deprecated := d.deprecated || a.deprecated
      access := if a.readOnly then some .read else if a.writeOnly then some .write else d.access } }

end OpenApiTypes.Normalize
