/-
Component schemas by name.

* `Model.Catalog`: the component schemas of a model;
* `Model.Catalog.find?`: the schema a pointer stands for;
* `Model.Catalog.deref`: the schema at the end of a chain of pointers. A chain has at most as many
  links as there are components unless it is a cycle.
-/
import OpenApiTypes.Model.Schema
import OpenApiTypes.Pointer

namespace OpenApiTypes.Model

/-- The component schemas of a model. -/
abbrev Catalog := Entries String Schema

namespace Catalog

/-- The component schema a pointer stands for. -/
def find? (catalog : Catalog) (pointer : String) : Option Schema := do
  Entries.get? catalog (← Pointer.schemaName? pointer)

/-- The schema that a schema stands for. -/
def target? (catalog : Catalog) (s : Schema) : Option Schema := s.pointer.bind catalog.find?

/-- Follows at most so many links. -/
def derefWithin (catalog : Catalog) : Nat → Schema → Schema
  | 0, s => s
  | links + 1, s =>
    match catalog.target? s with
    | some next => derefWithin catalog links next
    | none => s

/-- The schema at the end of a chain of pointers; on a cycle, one of its members. -/
def deref (catalog : Catalog) (s : Schema) : Schema := catalog.derefWithin (catalog.length + 1) s

end Catalog

end OpenApiTypes.Model
