/-
Naming conventions.

* `NamingConvention`: how the words of a generated name are written;
* `NamingConvention.sanitize`: a name reduced to letters, digits and underscores;
* `NamingConvention.apply`: a name under a convention.
-/
import OpenApiTypes.Naming.Words

namespace OpenApiTypes

/-- How the words of a generated name are written. -/
inductive NamingConvention where
  | camel
  | pascal
  | snake
  | screaming
  /-- Words keep the letters they have. -/
  | preserve
deriving DecidableEq, Repr

namespace NamingConvention

open OpenApiTypes.Text

/-- The name of a convention, itself written in that convention. -/
def label : NamingConvention → String
  | camel => "camelCase"
  | pascal => "PascalCase"
  | snake => "snake_case"
  | screaming => "SCREAMING_SNAKE_CASE"
  | preserve => "preserve"

/-- All conventions. -/
def all : List NamingConvention := [camel, pascal, snake, screaming, preserve]

/-- The convention of a name. -/
def ofLabel? (s : String) : Option NamingConvention := all.find? fun c => c.label == s

/-- Puts an underscore before a digit at the beginning. -/
def guardDigit (name : String) : String :=
  match name.toList with
  | c :: _ => if c.isDigit then "_" ++ name else name
  | [] => name

/-- Runs of letters and digits joined by underscores. A name without any becomes `unnamed`, and
one that begins with a digit gets an underscore before it. -/
def sanitize (name : String) : String :=
  let runs := (splitBy (fun c => !isAlphanumeric c) name.toList).filter fun run => !run.isEmpty
  match runs with
  | [] => "unnamed"
  | _ => guardDigit (joinWith "_" (runs.map String.ofList))

/-- A name under a convention. It never begins with a digit. -/
def apply (convention : NamingConvention) (name : String) : String :=
  let sanitized := sanitize name
  guardDigit <| match convention with
    | camel => Naming.camel sanitized
    | pascal => Naming.pascal sanitized
    | snake => Naming.snake sanitized
    | screaming => Naming.screaming sanitized
    | preserve => sanitized

end NamingConvention

end OpenApiTypes
