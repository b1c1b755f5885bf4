/-
Types and expressions in normal form.

* `TypeScript.unionOf`: a union without unions inside it and without repetitions;
* `TypeScript.intersectionOf`: an intersection without intersections inside it;
* `TypeScript.isPresent`: the test that a value is neither undefined nor null.
-/
import OpenApiTypes.TypeScript.Syntax

namespace OpenApiTypes.TypeScript

namespace TypeExpr

/-- The members of a union; any other type is its only member. -/
def alternatives : TypeExpr → List TypeExpr
  | union members => members
  | t => [t]

/-- The members of an intersection; any other type is its only member. -/
def parts : TypeExpr → List TypeExpr
  | intersection members => members
  | t => [t]

end TypeExpr

/-- Puts a type at the end of a list unless it is there. -/
def addMember (seen : List TypeExpr) (t : TypeExpr) : List TypeExpr :=
  if t ∈ seen then seen else seen ++ [t]

/-- The types of a list, each once, in the order of their first occurrence. -/
def members (types : List TypeExpr) : List TypeExpr :=
  (types.flatMap TypeExpr.alternatives).foldl addMember []

/-- The union of types. Without types it is `never`, and a single one is its own union. -/
def unionOf (types : List TypeExpr) : TypeExpr :=
  match members types with
  | [] => .keyword .never
  | [t] => t
  | ts => .union ts

/-- The intersection of types. Without types it is `unknown`, and a single one is its own
intersection. -/
def intersectionOf (types : List TypeExpr) : TypeExpr :=
  match types.flatMap TypeExpr.parts with
  | [] => .keyword .unknown
  | [t] => t
  | ts => .intersection ts

/-- A type by its name. -/
def named (name : String) : TypeExpr := .reference name []

/-- The test that a value is neither undefined nor null. -/
def isPresent (e : Expr) : Expr :=
  .binary (.binary e .strictUnequal (.identifier "undefined")) .and
    (.binary e .strictUnequal (.literal .null))

end OpenApiTypes.TypeScript
