/-
Types for schemas.

* `Types.Conversions`: which values arrive as objects of their own;
* `Types.typeOf`: the type of a schema. References become names, which are created when they are
  met first;
* `Types.indexType`: the type of members without a name of their own, to which the named ones have
  to be assignable;
* `Types.comment`: what is said before a declaration.
-/
import OpenApiTypes.Model.Schema
import OpenApiTypes.Output.Registry
import OpenApiTypes.TypeScript.Build

namespace OpenApiTypes.Types

open OpenApiTypes.Model
open OpenApiTypes.Output (Registry)
open OpenApiTypes.TypeScript (Keyword Literal Property TypeExpr intersectionOf named unionOf)

/-- Which values arrive as objects of their own. -/
structure Conversions where
  /-- Dates are `Date` objects. -/
  dates : Bool := false
  /-- Long integers are big integers. -/
  bigint : Bool := false
deriving DecidableEq, Repr

/-- The id of the file that holds the types. -/
def fileId : String := "types"

/-- What is said before a declaration: the description, and whether it is deprecated. -/
def comment (s : Schema) : List String :=
  s.documentation.description.toList.flatMap Text.lines
    ++ if s.documentation.deprecated then ["@deprecated"] else []

/-! ### Types without parts -/

/-- The type of one value. -/
def constantType : Json → TypeExpr
  | .null => .keyword .null
  | .bool b => .literal (.boolean b)
  | .number n => .literal (.number n.text)
  | .str s => .literal (.string s)
  | .arr _ | .obj _ => .keyword .unknown

/-- The type of strings in a format. -/
def stringType (conversions : Conversions) (format : Option String) : TypeExpr :=
  match format with
  | some "binary" => unionOf [named "Blob", named "File"]
  | some "date" | some "date-time" =>
    if conversions.dates then named "Date" else .keyword .string
  | _ => .keyword .string

/-- The type of integers in a format. -/
def integerType (conversions : Conversions) (format : Option String) : TypeExpr :=
  if conversions.bigint && format == some "int64" then .keyword .bigint else .keyword .number

/-- The type of a reference: the name created for it. -/
def referenceType (pointer : String) : StateM Registry TypeExpr := do
  match ← fun registry => registry.request pointer .type fileId true with
  | .active name _ => return named name
  | _ => return .keyword .unknown

/-- The types of named members, to which the type of the others is added. A member that may be
missing adds `undefined`. -/
def indexType (properties : List (Property TypeExpr)) (additional : TypeExpr) : TypeExpr :=
  if properties.isEmpty then additional
  else
    let missing := if properties.any Property.optional then [.keyword .undefined] else []
    unionOf (properties.map Property.type ++ missing ++ [additional])

/-! ### Types with parts -/

mutual

/-- The type of a schema. -/
def typeOf (conversions : Conversions) : Schema → StateM Registry TypeExpr
  | { pointer, shape, properties, required, additionalProperties, items, operator?, facets,
      constValue, .. } =>
    match pointer, constValue with
    | some pointer, _ => referenceType pointer
    | none, some value => pure (constantType value)
    | none, none =>
      match shape with
      | some .array => return .array (← elementType conversions items)
      | some .tuple => return .tuple (← typesOf conversions items)
      | some .enum => return unionOf (← typesOf conversions items)
      | some .object => do
        let properties ← propertyTypes conversions required properties
        let additional ← additionalType conversions additionalProperties
        return .object properties (additional.map (indexType properties))
      | some .string => pure (stringType conversions facets.format)
      | some .integer => pure (integerType conversions facets.format)
      | some .number => pure (.keyword .number)
      | some .boolean => pure (.keyword .boolean)
      | some .null => pure (.keyword .null)
      | some .never => pure (.keyword .never)
      | some .undefined => pure (.keyword .undefined)
      | some .void => pure (.keyword .void)
      | some .unknown => pure (.keyword .unknown)
      | none => do
        let members ← typesOf conversions items
        if members.isEmpty then return .keyword .unknown
        else match operator?.getD .or with
          | .and => return intersectionOf members
          | .or => return unionOf members

/-- The type of the elements of an array. -/
def elementType (conversions : Conversions) : List Schema → StateM Registry TypeExpr
  | [] => pure (.keyword .unknown)
  | s :: _ => typeOf conversions s

/-- The types of a list of schemas. -/
def typesOf (conversions : Conversions) : List Schema → StateM Registry (List TypeExpr)
  | [] => pure []
  | s :: rest => return (← typeOf conversions s) :: (← typesOf conversions rest)

/-- The members that properties become. -/
def propertyTypes (conversions : Conversions) (required : List String) :
    List (String × Schema) → StateM Registry (List (Property TypeExpr))
  | [] => pure []
  | (name, s) :: rest => do
    let type ← typeOf conversions s
    let property : Property TypeExpr :=
      { name, optional := !required.contains name, type, comment := comment s }
    return property :: (← propertyTypes conversions required rest)

/-- The type of members without a name of their own, if there may be any. -/
def additionalType (conversions : Conversions) :
    Option Schema → StateM Registry (Option TypeExpr)
  | none => pure none
  | some s => if s.hasShape .never then pure none else return some (← typeOf conversions s)

end

end OpenApiTypes.Types
