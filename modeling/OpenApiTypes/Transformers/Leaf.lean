/-
Values that JSON cannot carry, restored from what it carries instead.

* `Transformers.reviveDate?`: a date from its text;
* `Transformers.reviveBigint?`: a long integer from its digits;
* `Transformers.revive`: whichever applies and is switched on.
-/
import OpenApiTypes.Config.Basic
import OpenApiTypes.Model.Schema
import OpenApiTypes.TypeScript.Build

namespace OpenApiTypes.Transformers

open OpenApiTypes.Model
open OpenApiTypes.TypeScript (Expr Stmt)

/-- `target = new Date(target)`, for dates. -/
def reviveDate? (s : Schema) (target : Expr) : Option (List Stmt) :=
  if s.hasShape .string && (s.facets.format == some "date" || s.facets.format == some "date-time")
  then some [.expr (.assign target (.construct (.identifier "Date") [target]))]
  else none

/-- `target = BigInt(target.toString())`, for long integers. -/
def reviveBigint? (s : Schema) (target : Expr) : Option (List Stmt) :=
  if s.hasShape .integer && s.facets.format == some "int64" then
    let text := Expr.call (.property target "toString") []
    some [.expr (.assign target (.call (.identifier "BigInt") [text]))]
  else none

/-- The statements that restore a value, if it has to be. -/
def revive (options : Config.TransformersOptions) (s : Schema) (target : Expr) : List Stmt :=
  let date := if options.dates then reviveDate? s target else none
  let bigint := if options.bigint then reviveBigint? s target else none
  (date.or bigint).getD []

end OpenApiTypes.Transformers
