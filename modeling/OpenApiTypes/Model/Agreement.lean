/-
Schemas that describe the same values in the same words.

* `Model.Schema.agrees`: equality of schemas, for which neither the order of properties nor the
  order of members inside constants counts;
* `Model.distinct`: a list of schemas without repetitions.
-/
import OpenApiTypes.Model.Schema

namespace OpenApiTypes.Model

/-- Optional values agree when both are missing or both are there and agree. -/
def optionAgrees {α : Type} (same : α → α → Bool) : Option α → Option α → Bool
  | none, none => true
  | some a, some b => same a b
  | _, _ => false

/-- Equality of constraints. -/
def Facets.agrees (a b : Facets) : Bool :=
  a.format == b.format && a.pattern == b.pattern
    && optionAgrees Binary64.agrees a.minimum b.minimum
    && optionAgrees Binary64.agrees a.maximum b.maximum
    && optionAgrees Binary64.agrees a.exclusiveMinimum b.exclusiveMinimum
    && optionAgrees Binary64.agrees a.exclusiveMaximum b.exclusiveMaximum
    && a.minLength == b.minLength && a.maxLength == b.maxLength
    && a.minItems == b.minItems && a.maxItems == b.maxItems

/-- Equality of documentation. -/
def Documentation.agrees (a b : Documentation) : Bool :=
  optionAgrees Json.agrees a.defaultValue b.defaultValue
    && a.title == b.title && a.description == b.description && a.deprecated == b.deprecated
    && optionAgrees Json.agrees a.example_ b.example_ && a.access == b.access

mutual

/-- Equality of schemas. -/
def Schema.agrees : Schema → Schema → Bool
  | { pointer, shape, properties, required, additionalProperties, items, operator?, facets,
      constValue, documentation }, s =>
    pointer == s.pointer && shape == s.shape
      && properties.length == s.properties.length && propertiesAgree properties s.properties
      && required == s.required
      && optionalAgree additionalProperties s.additionalProperties
      && itemsAgree items s.items && operator? == s.operator?
      && facets.agrees s.facets && optionAgrees Json.agrees constValue s.constValue
      && documentation.agrees s.documentation

/-- Each property of the first list agrees with its namesake in the second. -/
def propertiesAgree : List (String × Schema) → List (String × Schema) → Bool
  | [], _ => true
  | (name, s) :: rest, others =>
    (match List.lookup name others with
      | some other => s.agrees other
      | none => false) && propertiesAgree rest others

/-- Both schemas are missing, or they agree. -/
def optionalAgree : Option Schema → Option Schema → Bool
  | none, none => true
  | some a, some b => a.agrees b
  | _, _ => false

/-- Lists agree item by item. -/
def itemsAgree : List Schema → List Schema → Bool
  | [], [] => true
  | a :: as, b :: bs => a.agrees b && itemsAgree as bs
  | _, _ => false

end

/-- Puts a schema at the end of a list unless one that agrees with it is there. -/
def addDistinct (seen : List Schema) (s : Schema) : List Schema :=
  if seen.any fun other => other.agrees s then seen else seen ++ [s]

/-- A list of schemas without repetitions, in the order of their first occurrence. -/
def distinct (schemas : List Schema) : List Schema := schemas.foldl addDistinct []

end OpenApiTypes.Model
