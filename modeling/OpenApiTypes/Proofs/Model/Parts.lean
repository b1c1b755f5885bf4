/-
Schemas inside other schemas, the schemas of a model, and the values that conform to them.

* `Model.Schema.parts`, `Model.Schema.Within`: the schemas directly inside a schema, and at any
  depth;
* `Model.Schema.Throughout`: a property holds of a schema and of every schema inside it;
* `Model.Schema.RefersOnlyTo`: every pointer at any depth of a schema is that of a component with
  one of certain names; `refersOnlyTo_iff` reads it off the schema and its parts;
* `Model.Api.roots`, `Model.Api.Holds`: the schemas that the entries of a model begin with, and
  every schema inside one of them;
* `Model.Schema.Admits`: a value is of the shape of a schema, whatever its parts are;
* `Model.Conforms`: a value conforms to a schema and, in its parts, to the schemas inside it. What
  a schema says beyond shapes, required properties, items and components constrains no value here,
  so that no conforming value is missed;
* `Model.Schema.Leads`, `Model.Schema.Reaches`: the schemas that a schema leads to, also by way of
  components.
-/
import OpenApiTypes.Model.Api
import OpenApiTypes.Proofs.Entries
import Mathlib.Algebra.Group.Int.Defs
import Mathlib.Logic.Relation

namespace OpenApiTypes

namespace Model

namespace Schema

/-! ### Schemas inside a schema -/

/-- The schemas directly inside a schema. -/
def parts (s : Schema) : List Schema :=
  s.properties.map Prod.snd ++ s.additionalProperties.toList ++ s.items

/-- A schema is another one, or occurs inside it at some depth. -/
inductive Within (t : Schema) : Schema → Prop where
  | self : Within t t
  | part {s p : Schema} (mem : p ∈ s.parts) (deep : Within t p) : Within t s

@[simp] lemma parts_ofShape (shape : Shape) : (ofShape shape).parts = [] := rfl

@[simp] lemma parts_reference (pointer : String) : (reference pointer).parts = [] := rfl

@[simp] lemma parts_setItems (s : Schema) (items : List Schema) (operator : Operator) :
    (s.setItems items operator).parts
      = s.properties.map Prod.snd ++ s.additionalProperties.toList ++ items := rfl

@[simp] lemma parts_undocumented (s : Schema) : s.undocumented.parts = s.parts := rfl

@[simp] lemma parts_documentedAs (s other : Schema) : (s.documentedAs other).parts = s.parts := rfl

/-- A property holds of a schema and of every schema inside it. -/
def Throughout (property : Schema → Prop) (s : Schema) : Prop :=
  ∀ t : Schema, t.Within s → property t

lemma throughout_iff {property : Schema → Prop} {s : Schema} :
    s.Throughout property ↔ property s ∧ ∀ p ∈ s.parts, p.Throughout property := by
  constructor
  · intro h
    exact ⟨h s .self, fun p hp t ht => h t (.part hp ht)⟩
  · rintro ⟨hs, hparts⟩ t ht
    cases ht with
    | self => exact hs
    | part mem deep => exact hparts _ mem t deep

/-! ### Pointers to components -/

/-- Every pointer in a schema is that of a component with one of the names. -/
def RefersOnlyTo (names : List String) (s : Schema) : Prop :=
  ∀ t : Schema, t.Within s → ∀ pointer, t.pointer = some pointer →
    ∃ name ∈ names, pointer = Pointer.schema name

variable {names : List String} {s t : Schema}

lemma refersOnlyTo_iff :
    s.RefersOnlyTo names ↔
      (∀ pointer, s.pointer = some pointer → ∃ name ∈ names, pointer = Pointer.schema name)
        ∧ ∀ p ∈ s.parts, p.RefersOnlyTo names :=
  throughout_iff

lemma RefersOnlyTo.of_mem_items (h : s.RefersOnlyTo names) (ht : t ∈ s.items) :
    t.RefersOnlyTo names :=
  (refersOnlyTo_iff.mp h).2 t (by simp [parts, ht])

lemma RefersOnlyTo.of_mem_properties (h : s.RefersOnlyTo names) {property : String × Schema}
    (hproperty : property ∈ s.properties) : property.2.RefersOnlyTo names :=
  (refersOnlyTo_iff.mp h).2 _ (by simpa [parts] using .inl ⟨_, hproperty⟩)

lemma RefersOnlyTo.of_additional (h : s.RefersOnlyTo names) (ht : s.additionalProperties = some t) :
    t.RefersOnlyTo names :=
  (refersOnlyTo_iff.mp h).2 t (by simp [parts, ht])

lemma refersOnlyTo_of_plain (hp : s.pointer = none)
    (hparts : ∀ p ∈ s.parts, p.RefersOnlyTo names) : s.RefersOnlyTo names :=
  refersOnlyTo_iff.mpr ⟨fun pointer h => by simp [hp] at h, hparts⟩

lemma refersOnlyTo_reference {name : String} (h : name ∈ names) :
    (reference (Pointer.schema name)).RefersOnlyTo names := by
  refine refersOnlyTo_iff.mpr ⟨fun pointer hp => ⟨name, h, ?_⟩, by simp⟩
  simpa [reference] using hp.symm

lemma refersOnlyTo_composed {items : List Schema} (h : ∀ i ∈ items, i.RefersOnlyTo names)
    (operator : Operator) : (composed items operator).RefersOnlyTo names := by
  unfold composed
  split
  · exact h _ (by simp)
  · exact refersOnlyTo_of_plain rfl (by simpa using h)

end Schema

/-! ### Parameters -/

namespace Parameters

lemma mem_toList_insert {ps : Parameters} {p q : Parameter} (h : q ∈ (ps.insert p).toList) :
    q = p ∨ q ∈ ps.toList := by
  obtain ⟨place, hplace, hq⟩ := List.mem_flatMap.mp h
  have key : q = p ∨ q ∈ (ps.at_ place).values := by
    unfold insert at hq
    split at hq <;> cases place <;>
      first
        | exact .inr hq
        | exact Entries.mem_values_put hq
  exact key.imp id fun hq => List.mem_flatMap.mpr ⟨place, hplace, hq⟩

/-- Nothing but the parameters of a list is gathered from it. -/
lemma mem_of_mem_ofList {l : List Parameter} {q : Parameter} (h : q ∈ (ofList l).toList) :
    q ∈ l := by
  have key : ∀ (l : List Parameter) (ps : Parameters), q ∈ (l.foldl insert ps).toList →
      q ∈ l ∨ q ∈ ps.toList := by
    intro l
    induction l with
    | nil => exact fun ps hq => .inr hq
    | cons p l ih =>
      intro ps hq
      rcases ih (ps.insert p) hq with hq | hq
      · exact .inl (List.mem_cons_of_mem _ hq)
      · rcases mem_toList_insert hq with rfl | hq
        · exact .inl List.mem_cons_self
        · exact .inr hq
  rcases key l {} h with h | h
  · exact h
  · simp [toList, Place.all, at_, Entries.values] at h

end Parameters

/-! ### Schemas of a model -/

/-- The schemas that an operation begins with: those of its parameters, its body and its
responses. -/
def Operation.roots (op : Operation) : List Schema :=
  op.parameters.toList.map Parameter.schema ++ (op.body.map Body.schema).toList
    ++ op.responses.values.map Response.schema

namespace Api

/-- The schemas that the entries of a model begin with. -/
def roots (api : Api) : List Schema :=
  api.catalog.values ++ api.components.parameters.values.map Parameter.schema
    ++ api.components.bodies.values.map Body.schema
    ++ (api.operations ++ api.webhookOperations).flatMap Operation.roots

/-- A schema occurs somewhere in a model. -/
def Holds (api : Api) (s : Schema) : Prop := ∃ root ∈ api.roots, s.Within root

end Api

end Model

/-! ### Values that conform -/

namespace Model

/-- The integers of 64 bits. -/
def IsLong (i : Int) : Prop := -2 ^ 63 ≤ i ∧ i < 2 ^ 63

namespace Schema

/-- A value is of the shape of a schema. Integers of the format `int64` have 64 bits. -/
def Admits (s : Schema) (v : Json) : Prop :=
  match s.shape, v with
  | none, _ | some .unknown, _ | some .enum, _ => True
  | some .array, .arr _ | some .tuple, .arr _ | some .object, .obj _ => True
  | some .boolean, .bool _ | some .null, .null | some .number, .number _ => True
  | some .string, .str _ => True
  | some .integer, .number n =>
    ∃ i, n.IsInteger i ∧ (s.facets.format = some "int64" → IsLong i)
  | _, _ => False

/-- A schema leads to its parts, and to the component that it stands for. -/
def Leads (catalog : Catalog) (s t : Schema) : Prop :=
  t ∈ s.parts ∨ ∃ pointer, s.pointer = some pointer ∧ catalog.find? pointer = some t

/-- A schema leads to another one in some steps. -/
def Reaches (catalog : Catalog) : Schema → Schema → Prop :=
  Relation.ReflTransGen (Leads catalog)

namespace Leads

variable {catalog : Catalog} {s t : Schema}

lemma component {pointer : String} (hpointer : s.pointer = some pointer)
    (hfind : catalog.find? pointer = some t) : s.Leads catalog t :=
  .inr ⟨pointer, hpointer, hfind⟩

lemma item (h : t ∈ s.items) : s.Leads catalog t := .inl (List.mem_append_right _ h)

lemma property {p : String × Schema} (h : p ∈ s.properties) : s.Leads catalog p.2 :=
  .inl (List.mem_append_left _ (List.mem_append_left _ (List.mem_map_of_mem h)))

/-- What holds of all that a schema reaches holds of all that the next one reaches. -/
lemma forall_reaches {P : Schema → Prop} (h : s.Leads catalog t)
    (hP : ∀ u, s.Reaches catalog u → P u) : ∀ u, t.Reaches catalog u → P u :=
  fun u hu => hP u (.head h hu)

end Leads

end Schema

/-- A value conforms to a schema. -/
inductive Conforms (catalog : Catalog) : Schema → Json → Prop where
  | component {s t : Schema} {pointer : String} {v : Json} (hpointer : s.pointer = some pointer)
      (hfind : catalog.find? pointer = some t) (h : Conforms catalog t v) : Conforms catalog s v
  | array {s : Schema} {values : List Json} (hpointer : s.pointer = none)
      (hshape : s.shape = some .array)
      (h : ∀ element ∈ s.items.head?, ∀ v ∈ values, Conforms catalog element v) :
      Conforms catalog s (.arr values)
  | object {s : Schema} {members : List (String × Json)} (hpointer : s.pointer = none)
      (hshape : s.shape = some .object)
      (hrequired : ∀ name ∈ s.required, name ∈ members.map Prod.fst)
      (h : ∀ property ∈ s.properties, ∀ x ∈ members, x.1 = property.1 →
        Conforms catalog property.2 x.2) :
      Conforms catalog s (.obj members)
  | leaf {s : Schema} {v : Json} (hpointer : s.pointer = none) (harray : s.shape ≠ some .array)
      (hobject : s.shape ≠ some .object) (hitems : s.shape = none → s.items = [])
      (hadmits : s.Admits v) : Conforms catalog s v
  | all {s : Schema} {v : Json} (hpointer : s.pointer = none) (hshape : s.shape = none)
      (hoperator : s.operator = .and) (h : ∀ item ∈ s.items, Conforms catalog item v) :
      Conforms catalog s v
  | any {s item : Schema} {v : Json} (hpointer : s.pointer = none) (hshape : s.shape = none)
      (hoperator : s.operator = .or) (hitem : item ∈ s.items) (h : Conforms catalog item v) :
      Conforms catalog s v

end Model

end OpenApiTypes
