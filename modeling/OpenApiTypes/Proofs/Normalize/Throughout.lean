/-
Properties that hold throughout a model.

* `Normalize.Inherited`: a property holds of the schemas that nothing is inside of, and of whatever
  is built around others;
* `Normalize.Built.throughout`: it then holds throughout every schema that is built;
* `Normalize.Inherited.of_holds`: and so of every schema that occurs anywhere in a model;
* `Normalize.Built.refersOnlyTo`: the pointers in a schema that is built, at any depth, are those of
  components;
* `Normalize.refersOnlyTo_of_mem_roots`: so are those in every schema that an entry of a model
  begins with;
* `Normalize.pointer_eq_schema_of_run`: every pointer that occurs anywhere in a model is that of
  one of its own component schemas.
-/
import OpenApiTypes.Proofs.Normalize.Built

namespace OpenApiTypes.Normalize

open OpenApiTypes.Model
open OpenApiTypes.Model.Schema (throughout_iff)

/-- A property holds of the schemas that are built, whatever holds inside them. -/
structure Inherited (scope : Scope) (P : Schema → Prop) : Prop where
  /-- Documentation does not count. -/
  document : ∀ {s : Schema} (d : Documentation), P s → P { s with documentation := d }
  plain : ∀ shape ∈ plainShapes, P (.ofShape shape)
  reference : ∀ name ∈ scope.components, P (.reference (Pointer.schema name))
  constant : ∀ v, P (constant v)
  enumeration : ∀ vs, vs ≠ [] → P (enumeration vs)
  constrained : ∀ shape ∈ constrainedShapes, ∀ s, P (constrain shape s)
  object : ∀ properties required additional, (properties = [] → additional.isSome) →
    P { shape := some .object, properties, required, additionalProperties := additional }
  array : ∀ item minItems maxItems,
    P { (Schema.ofShape .array).setItems [item] .or with facets := { minItems, maxItems } }
  tuple : ∀ items minItems maxItems,
    P { (Schema.ofShape .tuple).setItems items .and with facets := { minItems, maxItems } }
  composition : ∀ items operator, items.length ≠ 1 → P (({} : Schema).setItems items operator)
  /-- A union takes up null as one more item. -/
  grown : ∀ {s : Schema}, s.isOpenUnion = true → P s →
    P (s.setItems (s.items ++ [.ofShape .null]) .or)

namespace Inherited

variable {scope : Scope} {P : Schema → Prop} {s : Schema} (hP : Inherited scope P)

include hP

lemma throughout_document (h : s.Throughout P) (d : Documentation) :
    Schema.Throughout P { s with documentation := d } := by
  rw [throughout_iff] at h ⊢
  exact ⟨hP.document d h.1, h.2⟩

lemma throughout_null : (Schema.ofShape .null).Throughout P :=
  throughout_iff.mpr ⟨hP.plain .null (by decide), by simp⟩

lemma throughout_constant (v : Json) : (Normalize.constant v).Throughout P :=
  throughout_iff.mpr ⟨hP.constant v, by simp [Normalize.constant, Schema.parts]⟩

lemma throughout_composed {items : List Schema} (h : ∀ i ∈ items, i.Throughout P)
    (operator : Operator) : (Schema.composed items operator).Throughout P := by
  unfold Schema.composed
  split
  · exact h _ (by simp)
  · rename_i hitems
    refine throughout_iff.mpr ⟨hP.composition items operator fun hlength => ?_, by simpa using h⟩
    obtain ⟨item, rfl⟩ := List.length_eq_one_iff.mp hlength
    exact hitems item rfl

lemma throughout_orNull (h : s.Throughout P) : s.orNull.Throughout P := by
  unfold Schema.orNull
  split
  · exact h
  split
  · rename_i hopen
    obtain ⟨hs, hparts⟩ := throughout_iff.mp h
    refine throughout_iff.mpr ⟨hP.grown hopen hs, ?_⟩
    simp only [Schema.parts_setItems, List.mem_append, List.mem_singleton]
    rintro p (hp | hp | rfl)
    · exact hparts p (List.mem_append_left _ (List.mem_append.mpr hp))
    · exact hparts p (List.mem_append_right _ hp)
    · exact hP.throughout_null
  · refine hP.throughout_document (hP.throughout_composed (fun i hi => ?_) .or) _
    rcases List.mem_cons.mp hi with rfl | hi
    · exact hP.throughout_document h _
    · exact List.mem_singleton.mp hi ▸ hP.throughout_null

end Inherited

/-- A property that schemas have whatever holds inside them is one of everything inside them. -/
theorem Built.throughout {scope : Scope} {P : Schema → Prop} {s : Schema} (h : Built scope s)
    (hP : Inherited scope P) : s.Throughout P := by
  induction h with
  | plain hshape => exact throughout_iff.mpr ⟨hP.plain _ hshape, by simp⟩
  | reference hname => exact throughout_iff.mpr ⟨hP.reference _ hname, by simp⟩
  | constant v => exact hP.throughout_constant v
  | @enumeration vs hvs =>
    refine throughout_iff.mpr ⟨hP.enumeration vs hvs, fun p hp => ?_⟩
    obtain ⟨v, -, rfl⟩ : ∃ v ∈ vs, Normalize.constant v = p := by
      simpa [Normalize.enumeration, Schema.ofShape] using hp
    exact hP.throughout_constant v
  | constrained hshape s =>
    exact throughout_iff.mpr ⟨hP.constrained _ hshape s, by simp [constrain, Schema.parts]⟩
  | object required _ _ hopen hproperties hadditional =>
    refine throughout_iff.mpr ⟨hP.object _ required _ hopen, fun p hp => ?_⟩
    simp only [Schema.parts, List.append_nil, List.mem_append, List.mem_map,
      Option.mem_toList] at hp
    rcases hp with ⟨q, hq, rfl⟩ | hp
    · exact hproperties q hq
    · exact hadditional p hp
  | array minItems maxItems _ hitem =>
    refine throughout_iff.mpr ⟨hP.array _ minItems maxItems, ?_⟩
    simpa [Schema.parts, Schema.setItems, Schema.ofShape] using hitem
  | tuple minItems maxItems _ hitems =>
    refine throughout_iff.mpr ⟨hP.tuple _ minItems maxItems, ?_⟩
    simpa [Schema.parts, Schema.setItems, Schema.ofShape] using hitems
  | composed operator _ hitems => exact hP.throughout_composed hitems operator
  | documented _ _ hs => exact hP.throughout_document hs _
  | orNull _ hs => exact hP.throughout_orNull hs

/-- The model of a document is what its conversion makes of it. -/
lemma eq_api_of_run {source : Spec.Source} {options : Options} {r : Reported Api}
    (h : run source options = .ok r) : r = api source options := by
  unfold run at h
  split at h
  · simp at h
  · exact (Except.ok.inj h).symm

/-- Such a property holds of every schema that occurs anywhere in a model. -/
theorem Inherited.of_holds {source : Spec.Source} {options : Options} {r : Reported Api}
    {P : Schema → Prop} {s : Schema} (hP : Inherited (Scope.ofSource source) P)
    (h : run source options = .ok r) (hs : r.value.Holds s) : P s := by
  obtain rfl := eq_api_of_run h
  obtain ⟨root, hroot, hwithin⟩ := hs
  exact (built_of_mem_roots source options root hroot).throughout hP s hwithin

/-! ### The pointers that are left -/

lemma inherited_refers (scope : Scope) : Inherited scope fun s => ∀ pointer,
    s.pointer = some pointer → ∃ name ∈ scope.components, pointer = Pointer.schema name where
  document _ h := h
  plain _ _ _ h := nomatch h
  reference name hname _ h := ⟨name, hname, (Option.some.inj h).symm⟩
  constant _ _ h := nomatch h
  enumeration _ _ _ h := nomatch h
  constrained _ _ _ _ h := nomatch h
  object _ _ _ _ _ h := nomatch h
  array _ _ _ _ h := nomatch h
  tuple _ _ _ _ h := nomatch h
  composition _ _ _ _ h := nomatch h
  grown _ h := h

/-- The pointers in a schema that is built are those of components. -/
lemma Built.refersOnlyTo {scope : Scope} {s : Schema} (h : Built scope s) :
    s.RefersOnlyTo scope.components :=
  h.throughout (inherited_refers scope)

/-- Every component of the document is a component of the model, under its name. -/
@[simp] lemma keys_componentSchemas (scope : Scope)
    (cs : Entries String (Spec.Position Spec.Schema)) :
    (componentSchemas scope cs).value.keys = cs.keys := by
  induction cs with
  | nil => simp [componentSchemas, Entries.keys]
  | cons c rest ih => simpa [componentSchemas, Entries.keys] using ih

/-! ### Models -/

lemma keys_catalog_api (source : Spec.Source) (options : Options) :
    (api source options).value.catalog.keys = (Scope.ofSource source).components := by
  simp [api, Api.catalog, Scope.ofSource]

lemma refersOnlyTo_of_mem_roots (source : Spec.Source) (options : Options) :
    ∀ s ∈ (api source options).value.roots,
      s.RefersOnlyTo (api source options).value.catalog.keys := by
  intro s hs
  rw [keys_catalog_api]
  exact (built_of_mem_roots source options s hs).refersOnlyTo

/-- Reference closure: every pointer that occurs anywhere in a model, at whatever depth, is that of
one of its own component schemas. No other pointer of the document is left. -/
theorem pointer_eq_schema_of_run {source : Spec.Source} {options : Options} {r : Reported Api}
    (h : run source options = .ok r) {s : Schema} (hs : r.value.Holds s) {pointer : String}
    (hp : s.pointer = some pointer) :
    ∃ name ∈ r.value.catalog.keys, pointer = Pointer.schema name := by
  obtain rfl := eq_api_of_run h
  obtain ⟨root, hroot, hwithin⟩ := hs
  exact refersOnlyTo_of_mem_roots source options root hroot s hwithin pointer hp

/-- A component whose items refer to another one, by a name with escapes. -/
def escapedReference : Spec.Source where
  tree := .obj [("components", .obj [("schemas", .obj [("a/b", .obj []),
    ("Pets", .obj [("items", .obj [("$ref", .str "#/components/schemas/%61~1b")])])])])]
  document := {
    openapi := "3.1.0", info := ⟨"Pets", "1", none⟩, servers := [], paths := [], webhooks := []
    components := some { schemas := [
      ("a/b", .inline {}),
      ("Pets", .inline { items := some (.ref "#/components/schemas/%61~1b") })] }
    security := none }

theorem pointer_eq_schema_of_run_escapedReference :
    ∃ r, run escapedReference ⟨.declaredId, [], []⟩ = .ok r
      ∧ r.value.Holds (.reference "#/components/schemas/a~1b")
      ∧ ∃ name ∈ r.value.catalog.keys, "#/components/schemas/a~1b" = Pointer.schema name := by
  have hrun : run escapedReference ⟨.declaredId, [], []⟩
      = .ok (api escapedReference ⟨.declaredId, [], []⟩) := rfl
  have hname : Pointer.schemaName? "#/components/schemas/%61~1b" = some "a/b" := by
    decide +kernel
  have hschema : Pointer.schema "a/b" = "#/components/schemas/a~1b" := by decide +kernel
  have hholds : (api escapedReference ⟨.declaredId, [], []⟩).value.Holds
      (.reference "#/components/schemas/a~1b") := by
    refine ⟨(position (.ofSource escapedReference) (.initial (.ofSource escapedReference))
      (.inline { items := some (.ref "#/components/schemas/%61~1b") })
      (Pointer.schema "Pets")).value, ?_,
      .part (p := .reference "#/components/schemas/a~1b") ?_ .self⟩
    · simp [Api.roots, api, Api.catalog, escapedReference, componentSchemas, Entries.values]
    · rw [position]
      simp [assemble, body, typed, array, optional, position, hname, hschema, Scope.ofSource,
        escapedReference, Entries.keys, Schema.parts, document, Schema.setItems]
  exact ⟨_, hrun, hholds, pointer_eq_schema_of_run hrun hholds rfl⟩

end OpenApiTypes.Normalize
