/-
The form of the schemas of a model.

* `Model.Schema.WellFormed`: which members a schema has by its pointer and its shape;
* `Normalize.Built.wellFormed`: a schema that is built is well-formed, and so is every schema inside
  it;
* `Normalize.wellFormed_of_run`: every schema that occurs anywhere in a model is well-formed;
* `Normalize.default_beside_pointer`: beside its pointer, a schema may have a default.
-/
import OpenApiTypes.Proofs.Normalize.Throughout
import OpenApiTypes.Proofs.Spec.Source

namespace OpenApiTypes

namespace Model.Schema

/-- Which members a schema has by its pointer and its shape. Tuples may have any number of items. -/
structure WellFormed (s : Schema) : Prop where
  /-- Items are combined by an operator exactly if there are several. -/
  operator : s.operator?.isSome ↔ 2 ≤ s.items.length
  /-- A schema that stands for a component says nothing of its own but its documentation. -/
  pointer : ∀ pointer, s.pointer = some pointer →
    s = { reference pointer with documentation := s.documentation }
  array : s.shape = some .array → s.items.length = 1
  enum : s.shape = some .enum → s.items ≠ []
    ∧ ∀ item ∈ s.items, (item.constValue.isSome ∨ item.shape = some .null) ∧ item.items = []
  object : s.shape = some .object →
    s.items = [] ∧ (s.properties = [] → s.additionalProperties.isSome)
  composition : s.shape = none → s.pointer = none → s.properties = [] ∧ s.items.length ≠ 1
  other : ∀ shape, s.shape = some shape → shape ∉ [.array, .enum, .object, .tuple] →
    s.items = [] ∧ s.properties = []

variable {s : Schema}

/-- Documentation does not count. -/
lemma WellFormed.document (h : s.WellFormed) (d : Documentation) :
    WellFormed { s with documentation := d } where
  operator := h.operator
  pointer p hp := by rw [h.pointer p hp]
  array := h.array
  enum := h.enum
  object := h.object
  composition := h.composition
  other := h.other

/-- A schema with a shape and without parts is well-formed if it may be without. -/
lemma wellFormed_of_leaf (shape : Shape) (hshape : s.shape = some shape)
    (hleaf : shape ∉ [.array, .enum, .object]) (hpointer : s.pointer = none)
    (hproperties : s.properties = []) (hitems : s.items = []) (hoperator : s.operator? = none) :
    s.WellFormed where
  operator := by simp [hoperator, hitems]
  pointer p hp := by simp [hpointer] at hp
  array h := by simp_all
  enum h := by simp_all
  object h := by simp_all
  composition h := by simp_all
  other _ _ _ := ⟨hitems, hproperties⟩

lemma operator?_setItems (s : Schema) (items : List Schema) (operator : Operator) :
    (s.setItems items operator).operator?.isSome
      ↔ 2 ≤ (s.setItems items operator).items.length := by
  by_cases h : 1 < items.length
  · simp [setItems, h]
    omega
  · simp [setItems, h]
    omega

/-- A schema without a shape of its own is well-formed unless it has a single item. -/
lemma wellFormed_setItems (hshape : s.shape = none) (hpointer : s.pointer = none)
    (hproperties : s.properties = []) {items : List Schema} (hitems : items.length ≠ 1)
    (operator : Operator) : (s.setItems items operator).WellFormed where
  operator := operator?_setItems s items operator
  pointer p hp := by simp [setItems, hpointer] at hp
  array h := by simp [setItems, hshape] at h
  enum h := by simp [setItems, hshape] at h
  object h := by simp [setItems, hshape] at h
  composition _ _ := ⟨hproperties, hitems⟩
  other _ h := by simp [setItems, hshape] at h

/-- So is one with a shape that has items, if these are as the shape says. -/
lemma wellFormed_shaped (shape : Shape) (items : List Schema) (operator : Operator)
    (facets : Facets) (hshape : shape ∈ [.array, .enum, .tuple])
    (harray : shape = .array → items.length = 1)
    (henum : shape = .enum → items ≠ []
      ∧ ∀ item ∈ items, (item.constValue.isSome ∨ item.shape = some .null) ∧ item.items = []) :
    WellFormed { (ofShape shape).setItems items operator with facets } where
  operator := operator?_setItems (ofShape shape) items operator
  pointer p hp := by simp [setItems, ofShape] at hp
  array h := harray (Option.some.inj h)
  enum h := henum (Option.some.inj h)
  object h := by
    obtain rfl : shape = .object := Option.some.inj h
    simp at hshape
  composition h := by simp [setItems, ofShape] at h
  other other h hother := by
    obtain rfl : shape = other := Option.some.inj h
    simp_all

end Model.Schema

namespace Normalize

open OpenApiTypes.Model

lemma wellFormed_constant (v : Json) : (constant v).WellFormed := by
  have hshape : shapeOf v ∉ [.array, .enum, .object] := by
    unfold shapeOf
    split <;> decide
  exact Schema.wellFormed_of_leaf (shapeOf v) rfl hshape rfl rfl rfl rfl

lemma inherited_wellFormed (scope : Scope) : Inherited scope Schema.WellFormed where
  document d h := h.document d
  plain shape hshape := by
    have hleaf : ∀ shape ∈ plainShapes, shape ∉ [.array, .enum, .object] := by decide
    exact Schema.wellFormed_of_leaf shape rfl (hleaf shape hshape) rfl rfl rfl rfl
  reference name _ := by constructor <;> simp [Schema.reference]
  constant := wellFormed_constant
  enumeration vs hvs := by
    refine Schema.wellFormed_shaped .enum (vs.map Normalize.constant) .or {} (by decide)
      (by simp) fun _ => ⟨by simpa using hvs, fun item hitem => ?_⟩
    obtain ⟨v, -, rfl⟩ := List.mem_map.mp hitem
    exact ⟨.inl rfl, rfl⟩
  constrained shape hshape s := by
    have hleaf : ∀ shape ∈ constrainedShapes, shape ∉ [.array, .enum, .object] := by decide
    exact Schema.wellFormed_of_leaf shape rfl (hleaf shape hshape) rfl rfl rfl rfl
  object _ _ _ hopen := by
    constructor <;> simp
    exact hopen
  array item _ _ := Schema.wellFormed_shaped .array [item] .or _ (by decide) (by simp) (by simp)
  tuple items _ _ := Schema.wellFormed_shaped .tuple items .and _ (by decide) (by simp) (by simp)
  composition _ operator hlength := Schema.wellFormed_setItems rfl rfl rfl hlength operator
  grown {s} hopen h := by
    -- It has an item already, so that it has two at least.
    obtain ⟨⟨⟨hpointer, hshape⟩, -⟩, hitems⟩ : ((s.pointer = none ∧ s.shape = none)
        ∧ s.operator = .or) ∧ s.items ≠ [] := by simpa [Schema.isOpenUnion] using hopen
    obtain ⟨hproperties, -⟩ := h.composition hshape hpointer
    exact Schema.wellFormed_setItems hshape hpointer hproperties (by simpa) .or

/-- A schema that is built is well-formed, and so is every schema inside it. -/
theorem Built.wellFormed {scope : Scope} {s : Schema} (h : Built scope s) :
    s.Throughout Schema.WellFormed :=
  h.throughout (inherited_wellFormed scope)

/-- Every schema that occurs anywhere in a model is well-formed. -/
theorem wellFormed_of_run {source : Spec.Source} {options : Options} {r : Reported Api}
    (h : run source options = .ok r) {s : Schema} (hs : r.value.Holds s) : s.WellFormed := by
  obtain rfl := eq_api_of_run h
  obtain ⟨root, hroot, hwithin⟩ := hs
  exact (built_of_mem_roots source options root hroot).wellFormed s hwithin

/-- A component that stands for another one and gives it a default. -/
def defaultedReference : Spec.Source where
  tree := .obj [("openapi", .str "3.1.0"),
    ("info", .obj [("title", .str "Pets"), ("version", .str "1")]),
    ("components", .obj [("schemas", .obj [("Name", .obj [("type", .str "string")]),
      ("Nickname", .obj [("allOf", .arr [.obj [("$ref", .str "#/components/schemas/Name")]]),
        ("default", .str "Rex")])])])]
  document := {
    openapi := "3.1.0", info := ⟨"Pets", "1", none⟩, servers := [], paths := [], webhooks := []
    components := some { schemas := [
      ("Name", .inline { types := some (.single .string) }),
      ("Nickname", .inline {
        allOf := [.ref "#/components/schemas/Name"]
        annotations := { defaultValue := some (.str "Rex") } })] }
    security := none }

/-- What becomes of the second component. -/
def nickname : Schema :=
  { Schema.reference "#/components/schemas/Name" with
    documentation := { defaultValue := some (.str "Rex") } }

lemma holds_nickname : (api defaultedReference ⟨.declaredId, [], []⟩).value.Holds nickname := by
  have hname : Pointer.schemaName? "#/components/schemas/Name" = some "Name" := by decide +kernel
  have hschema : Pointer.schema "Name" = "#/components/schemas/Name" := by decide +kernel
  refine ⟨nickname, ?_, .self⟩
  simp only [Api.roots, List.mem_append]
  refine .inl (.inl (.inl ?_))
  simp [api, Api.catalog, defaultedReference, componentSchemas, Entries.values, position, positions,
    assemble, body, ownStructure, Schema.composed, document, hname, hschema, Scope.ofSource,
    Entries.keys, nickname, Schema.reference, override]

theorem wellFormed_of_run_defaultedReference :
    ∃ r, run defaultedReference ⟨.declaredId, [], []⟩ = .ok r ∧ r.value.Holds nickname
      ∧ nickname.WellFormed :=
  have hrun : run defaultedReference ⟨.declaredId, [], []⟩
      = .ok (api defaultedReference ⟨.declaredId, [], []⟩) := rfl
  ⟨_, hrun, holds_nickname, wellFormed_of_run hrun holds_nickname⟩

lemma isRead_defaultedReference : defaultedReference.IsRead := by
  have hfirst : Spec.Position.ofJson? (.obj [("type", .str "string")])
      = some (.inline { types := some (.single .string) }) := by
    simp [Spec.Position.ofJson?, Spec.Schema.ofMembers?, Entries.get?, List.lookup_cons,
      Spec.Schema.takeFlat?]
    rfl
  have hsecond : Spec.Position.ofJson? (.obj [("allOf", .arr [.obj [("$ref",
        .str "#/components/schemas/Name")]]), ("default", .str "Rex")])
      = some (.inline {
        allOf := [.ref "#/components/schemas/Name"]
        annotations := { defaultValue := some (.str "Rex") } }) := by
    simp [Spec.Position.ofJson?, Spec.Schema.ofMembers?, Entries.get?, List.lookup_cons,
      Spec.Position.list?, Spec.Position.listOfItems?]
    rfl
  refine Spec.Source.isRead_ofSchemas (by decide +kernel) ?_
  simp [Json.entries?, hfirst, hsecond]

/-- Beside its pointer, a schema may have a default. -/
theorem default_beside_pointer :
    defaultedReference.IsRead ∧ ∃ r s, run defaultedReference ⟨.declaredId, [], []⟩ = .ok r
      ∧ r.value.Holds s ∧ s.pointer = some "#/components/schemas/Name"
      ∧ s.documentation.defaultValue = some (.str "Rex") :=
  ⟨isRead_defaultedReference, _, nickname, rfl, holds_nickname, rfl, rfl⟩

end Normalize

end OpenApiTypes
