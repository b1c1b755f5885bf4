/-
Schemas written as JSON.

* `Spec.Position.toJson`: what stands where a schema is expected;
* `Spec.Schema.toMembers`: the members of a schema in a fixed order; those that say nothing are
  left out.
-/
import OpenApiTypes.Json.Record
import OpenApiTypes.Spec.Schema

namespace OpenApiTypes.Spec

/-- The types of a schema. -/
def Types.toJson : Types → Json
  | single kind => .str kind.name
  | several kinds => Json.strings (kinds.map Kind.name)

/-- An exclusive bound. -/
def ExclusiveBound.toJson : ExclusiveBound → Json
  | flag b => .bool b
  | bound x => Json.float x

/-- A reference. -/
def refToJson (pointer : String) : Json := .obj [("$ref", .str pointer)]

/-- What stands for something that other places can refer to. -/
def RefOr.toJson {α : Type} (write : α → Json) : RefOr α → Json
  | ref pointer => refToJson pointer
  | item value => write value

/-- The members of constraints. -/
def Bounds.toMembers (b : Bounds) : List (String × Json) :=
  Json.memberIf "minimum" (b.minimum.map Json.float)
    ++ Json.memberIf "maximum" (b.maximum.map Json.float)
    ++ Json.memberIf "exclusiveMinimum" (b.exclusiveMinimum.map ExclusiveBound.toJson)
    ++ Json.memberIf "exclusiveMaximum" (b.exclusiveMaximum.map ExclusiveBound.toJson)
    ++ Json.memberIf "minLength" (b.minLength.map Json.nat)
    ++ Json.memberIf "maxLength" (b.maxLength.map Json.nat)
    ++ Json.memberIf "pattern" (b.pattern.map .str)
    ++ Json.memberIf "minItems" (b.minItems.map Json.nat)
    ++ Json.memberIf "maxItems" (b.maxItems.map Json.nat)

/-- The members of annotations. -/
def Annotations.toMembers (a : Annotations) : List (String × Json) :=
  Json.memberIf "title" (a.title.map .str)
    ++ Json.memberIf "description" (a.description.map .str)
    ++ Json.memberIf "default" a.defaultValue
    ++ Json.memberIf "example" a.example_
    ++ Json.flag "deprecated" a.deprecated
    ++ Json.flag "readOnly" a.readOnly
    ++ Json.flag "writeOnly" a.writeOnly

/-- A member that holds a list and is left out when the list is empty. -/
def listMember (name : String) (items : List Json) : List (String × Json) :=
  if items.isEmpty then [] else [(name, .arr items)]

/-- A member that holds entries and is left out when there are none. -/
def entriesMember (name : String) (members : List (String × Json)) : List (String × Json) :=
  if members.isEmpty then [] else [(name, .obj members)]

mutual

/-- What stands where a schema is expected. -/
def Position.toJson : Position Schema → Json
  | .ref pointer => refToJson pointer
  | .bool b => .bool b
  | .inline schema => .obj (Schema.toMembers schema)

/-- A list of schemas. -/
def Position.listToItems : List (Position Schema) → List Json
  | [] => []
  | p :: rest => p.toJson :: Position.listToItems rest

/-- Schemas under names. -/
def Position.entriesToMembers : List (String × Position Schema) → List (String × Json)
  | [] => []
  | (name, p) :: rest => (name, p.toJson) :: Position.entriesToMembers rest

/-- A schema that may be missing. -/
def Position.optionToJson : Option (Position Schema) → Option Json
  | none => none
  | some p => some p.toJson

/-- The members of a schema. -/
def Schema.toMembers : Schema → List (String × Json)
  | { types, format, nullable, properties, required, additionalProperties, items, prefixItems,
      allOf, oneOf, anyOf, enumValues, constValue, bounds, annotations } =>
    Json.memberIf "type" (types.map Types.toJson)
      ++ Json.memberIf "format" (format.map .str)
      ++ Json.flag "nullable" nullable
      ++ entriesMember "properties" (Position.entriesToMembers properties)
      ++ listMember "required" (required.map .str)
      ++ Json.memberIf "additionalProperties" (Position.optionToJson additionalProperties)
      ++ Json.memberIf "items" (Position.optionToJson items)
      ++ listMember "prefixItems" (Position.listToItems prefixItems)
      ++ listMember "allOf" (Position.listToItems allOf)
      ++ listMember "oneOf" (Position.listToItems oneOf)
      ++ listMember "anyOf" (Position.listToItems anyOf)
      ++ listMember "enum" enumValues
      ++ Json.memberIf "const" constValue
      ++ bounds.toMembers
      ++ annotations.toMembers

end

end OpenApiTypes.Spec
