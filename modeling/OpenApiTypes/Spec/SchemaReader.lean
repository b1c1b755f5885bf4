/-
Schemas read from JSON.

* `Spec.Position.ofJson?`: what stands where a schema is expected;
* `Spec.Schema.ofMembers?`: a schema takes up the members of an object one by one; members it
  does not know do not matter.
-/
import OpenApiTypes.Json.Record
import OpenApiTypes.Spec.Schema

namespace OpenApiTypes.Spec

/-- The types of a schema: one name or a list of names. -/
def Types.ofJson? (v : Json) : Option Types :=
  match Json.variant? (some ∘ Kind.ofName) v with
  | some kind => some (.single kind)
  | none => (Json.list? (Json.variant? (some ∘ Kind.ofName)) v).map .several

/-- Required names. A boolean says nothing about properties and reads as no names. -/
def requiredNames? : Json → Option (List String)
  | .bool _ => some []
  | v => Json.list? Json.string? v

/-- An exclusive bound. -/
def ExclusiveBound.ofJson? : Json → Option ExclusiveBound
  | .bool b => some (.flag b)
  | v => (Json.float? v).map .bound

/-- What stands for something that other places can refer to: a reference if `$ref` is a text. -/
def RefOr.ofJson? {α : Type} (read : Json → Option α) (v : Json) : Option (RefOr α) :=
  match v.member? "$ref" with
  | some (.str pointer) => some (.ref pointer)
  | _ => (read v).map .item

/-- Constraints with one more member taken up, if it is one of theirs. -/
def Bounds.take? (b : Bounds) (key : String) (v : Json) : Option Bounds :=
  match key with
  | "minimum" => do some { b with minimum := ← Json.nullable? Json.float? v }
  | "maximum" => do some { b with maximum := ← Json.nullable? Json.float? v }
  | "exclusiveMinimum" => do
    some { b with exclusiveMinimum := ← Json.nullable? ExclusiveBound.ofJson? v }
  | "exclusiveMaximum" => do
    some { b with exclusiveMaximum := ← Json.nullable? ExclusiveBound.ofJson? v }
  | "minLength" => do some { b with minLength := ← Json.nullable? Json.nat? v }
  | "maxLength" => do some { b with maxLength := ← Json.nullable? Json.nat? v }
  | "pattern" => do some { b with pattern := ← Json.nullable? Json.string? v }
  | "minItems" => do some { b with minItems := ← Json.nullable? Json.nat? v }
  | "maxItems" => do some { b with maxItems := ← Json.nullable? Json.nat? v }
  | _ => some b

/-- Annotations with one more member taken up, if it is one of theirs. -/
def Annotations.take? (a : Annotations) (key : String) (v : Json) : Option Annotations :=
  match key with
  | "title" => do some { a with title := ← Json.nullable? Json.string? v }
  | "description" => do some { a with description := ← Json.nullable? Json.string? v }
  | "default" => do some { a with defaultValue := ← Json.nullable? Json.any? v }
  | "example" => do some { a with example_ := ← Json.nullable? Json.any? v }
  | "deprecated" => do some { a with deprecated := ← v.bool? }
  | "readOnly" => do some { a with readOnly := ← v.bool? }
  | "writeOnly" => do some { a with writeOnly := ← v.bool? }
  | _ => some a

/-- A schema with one more member taken up whose value holds no schemas. -/
def Schema.takeFlat? (s : Schema) (key : String) (v : Json) : Option Schema :=
  match key with
  | "type" => do some { s with types := ← Json.nullable? Types.ofJson? v }
  | "format" => do some { s with format := ← Json.nullable? Json.string? v }
  | "nullable" => do some { s with nullable := ← v.bool? }
  | "required" => do some { s with required := ← requiredNames? v }
  | "enum" => do some { s with enumValues := ← Json.list? Json.any? v }
  | "const" => do some { s with constValue := ← Json.nullable? Json.any? v }
  | _ => do
    some { s with bounds := ← s.bounds.take? key v, annotations := ← s.annotations.take? key v }

mutual

/-- What stands where a schema is expected: a reference if `$ref` is a text, a boolean, or an
object. -/
def Position.ofJson? : Json → Option (Position Schema)
  | .bool b => some (.bool b)
  | .obj members =>
    match Entries.get? members "$ref" with
    | some (.str pointer) => some (.ref pointer)
    | _ => (Schema.ofMembers? {} members).map .inline
  | _ => none

/-- A list of schemas. -/
def Position.listOfItems? : List Json → Option (List (Position Schema))
  | [] => some []
  | v :: rest => do some ((← Position.ofJson? v) :: (← Position.listOfItems? rest))

/-- Schemas under names. -/
def Position.entriesOfMembers? : List (String × Json) → Option (List (String × Position Schema))
  | [] => some []
  | (key, v) :: rest => do
    some ((key, ← Position.ofJson? v) :: (← Position.entriesOfMembers? rest))

/-- A list of schemas, from an array. -/
def Position.list? : Json → Option (List (Position Schema))
  | .arr items => Position.listOfItems? items
  | _ => none

/-- Schemas under names, from an object. -/
def Position.entries? : Json → Option (List (String × Position Schema))
  | .obj members => Position.entriesOfMembers? members
  | _ => none

/-- A schema that may be null. -/
def Position.nullable? : Json → Option (Option (Position Schema))
  | .null => some none
  | v => (Position.ofJson? v).map some

/-- The schema that takes up the members of an object, after those taken up already. -/
def Schema.ofMembers? (s : Schema) : List (String × Json) → Option Schema
  | [] => some s
  | (key, v) :: rest =>
    let next : Option Schema := match key with
      | "properties" => do some { s with properties := ← Position.entries? v }
      | "additionalProperties" => do
        some { s with additionalProperties := ← Position.nullable? v }
      | "items" => do some { s with items := ← Position.nullable? v }
      | "prefixItems" => do some { s with prefixItems := ← Position.list? v }
      | "allOf" => do some { s with allOf := ← Position.list? v }
      | "oneOf" => do some { s with oneOf := ← Position.list? v }
      | "anyOf" => do some { s with anyOf := ← Position.list? v }
      | _ => s.takeFlat? key v
    match next with
    | some s => Schema.ofMembers? s rest
    | none => none

end

end OpenApiTypes.Spec
