/-
Fields that page through results.

* `Model.isPrimitiveLike`: a primitive schema, or a composition of one with nothing but nulls;
* `Model.ownPagedProperty?`: a property that has the name of such a field;
* `Model.searchPaged`: the first one found when conjunctions and references are looked through.
  Deeper structures are not searched, and no reference is entered twice;
* `Model.pagingOfBody?`, `Model.pagingOfParameter?`: the field of a body and of a parameter.
-/
import OpenApiTypes.Model.Catalog
import OpenApiTypes.Model.Parameter
import OpenApiTypes.Reference

namespace OpenApiTypes.Model

/-- Whether a schema is primitive, or a composition of exactly one primitive schema with nulls. -/
def isPrimitiveLike (catalog : Catalog) (s : Schema) : Bool :=
  let s := catalog.deref s
  match s.shape with
  | some shape => shape.isPrimitive
  | none =>
    let others := (s.items.map catalog.deref).filter fun item =>
      !((item.shape.map Shape.isNullish).getD false)
    match others with
    | [only] => (only.shape.map Shape.isPrimitive).getD false
    | _ => false

/-- The first property that has the name of a paging field and a primitive schema. -/
def ownPagedProperty? (catalog : Catalog) (keywords : List String) (s : Schema) : Option String :=
  (s.properties.find? fun (name, property) =>
    keywords.contains name && isPrimitiveLike catalog property).map Prod.fst

/-- Whether the items of a schema contribute properties to the schema itself. -/
def Schema.isConjunction (s : Schema) : Bool := s.operator == .and && s.items.length > 1

/-! ### What is still to look at -/

mutual

/-- The pointers of a schema and of its items, their items and so on. -/
def itemPointers : Schema → List String
  | { pointer, items, .. } => pointer.toList ++ itemPointersOfList items

/-- The pointers of a list of schemas. -/
def itemPointersOfList : List Schema → List String
  | [] => []
  | s :: rest => itemPointers s ++ itemPointersOfList rest

end

/-- Something still to look at. -/
inductive PagingTask where
  /-- A schema with all it stands for and consists of. -/
  | schema (s : Schema)
  /-- The properties of a schema. -/
  | properties (s : Schema)

mutual

/-- Bounds how often the items of a schema can be taken apart. -/
def itemWeight : Schema → Nat
  | { items, .. } => itemWeightOfList items + 2

/-- The weights of a list of schemas. -/
def itemWeightOfList : List Schema → Nat
  | [] => 0
  | s :: rest => itemWeight s + itemWeightOfList rest

end

/-- Bounds how often a list of tasks can be taken apart. -/
def taskWeight : List PagingTask → Nat
  | [] => 0
  | .schema s :: rest => itemWeight s + taskWeight rest
  | .properties _ :: rest => 1 + taskWeight rest

/-- What a schema that is no reference gives to look at: its items first, if they contribute to
it, then its own properties. -/
def Schema.pagingTasks (s : Schema) : List PagingTask :=
  (if s.isConjunction then s.items.map .schema else []) ++ [.properties s]

theorem taskWeight_append (a b : List PagingTask) :
    taskWeight (a ++ b) = taskWeight a + taskWeight b := by
  induction a with
  | nil => simp [taskWeight]
  | cons t rest ih => cases t <;> simp [taskWeight, ih, Nat.add_assoc]

theorem taskWeight_map_schema (items : List Schema) :
    taskWeight (items.map .schema) = itemWeightOfList items := by
  induction items with
  | nil => rfl
  | cons s rest ih => simp [taskWeight, itemWeightOfList, ih]

theorem itemWeight_eq (s : Schema) : itemWeight s = itemWeightOfList s.items + 2 := by
  cases s; rfl

theorem taskWeight_pagingTasks_lt (s : Schema) : taskWeight s.pagingTasks < itemWeight s := by
  rw [Schema.pagingTasks, taskWeight_append, itemWeight_eq]
  split <;> simp [taskWeight_map_schema, taskWeight]

/-- The first paging property among the things still to look at. `fresh` holds the pointers that
may still be entered. -/
def searchPaged (catalog : Catalog) (keywords : List String) (fresh : List String) :
    List PagingTask → Option String
  | [] => none
  | .properties s :: rest =>
    match ownPagedProperty? catalog keywords s with
    | some name => some name
    | none => searchPaged catalog keywords fresh rest
  | .schema s :: rest =>
    match s.pointer with
    | none => searchPaged catalog keywords fresh (s.pagingTasks ++ rest)
    | some pointer =>
      if _ : pointer ∈ fresh then
        match catalog.find? pointer with
        | some target =>
          searchPaged catalog keywords (Reference.without pointer fresh)
            (target.pagingTasks ++ rest)
        | none => searchPaged catalog keywords (Reference.without pointer fresh) rest
      else searchPaged catalog keywords fresh rest
termination_by tasks => (fresh.length, taskWeight tasks)
decreasing_by
  · exact Prod.Lex.right _ (by simp [taskWeight])
  · refine Prod.Lex.right _ ?_
    simpa [taskWeight, taskWeight_append] using taskWeight_pagingTasks_lt s
  · exact Prod.Lex.left _ _ (Reference.length_without_lt ‹_›)
  · exact Prod.Lex.left _ _ (Reference.length_without_lt ‹_›)
  · exact Prod.Lex.right _ (by simp [taskWeight, itemWeight_eq])

/-! ### Bodies and parameters -/

/-- The paging field of a body: a property found through conjunctions and references. -/
def pagingOfBody? (catalog : Catalog) (keywords : List String) (s : Schema) :
    Option Pagination :=
  let pointers := itemPointers s ++ catalog.values.flatMap itemPointers
  (searchPaged catalog keywords pointers [.schema s]).map .field

/-- The paging field of a parameter: the parameter itself if its name says so. -/
def pagingOfParameter? (catalog : Catalog) (keywords : List String) (name : String) (s : Schema) :
    Option Pagination :=
  if keywords.contains name then some .root else pagingOfBody? catalog keywords s

end OpenApiTypes.Model
