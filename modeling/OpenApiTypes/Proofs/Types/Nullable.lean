/-
The types of schemas that are widened by null.

* `Types.OffersNull`: null is one of the alternatives of a schema;
* `Types.gives_offersNull`: the type of a schema is flat, and null is one of its alternatives
  exactly then;
* `Types.TakesNull`: widening adds null to what the type of a schema is made of,
  `Types.run_typeOf_orNull`: the type has null as one more alternative then,
  `Types.typeOf_orNull_of_not_takesNull`: and stays as it is otherwise;
* `Types.widenable_iff_of_built`: the schemas of a model to whose types null cannot be added are
  arrays, tuples and intersections that have null among their items;
* `Types.typeOf_orNull_iff`: null is added to the types of all others.
-/
import OpenApiTypes.Proofs.Normalize.Dialects
import OpenApiTypes.Proofs.Types.Typed
import OpenApiTypes.Proofs.TypeScript.Unions

namespace OpenApiTypes

namespace Types

open OpenApiTypes.Model (Operator Schema Shape)
open OpenApiTypes.Output (Registry)
open OpenApiTypes.TypeScript (Keyword TypeExpr intersectionOf named unionOf)

variable {conversions : Conversions} {r : Registry} {s : Schema}

/-! ### Schemas that offer null -/

/-- Null is one of the alternatives of a schema: it is null, or it is a union with an item that
offers null, or a composition of one such item. -/
inductive OffersNull : Schema → Prop
  | null {s : Schema} (hopen : IsOpen s) (hshape : s.shape = some .null) : OffersNull s
  | constant {s : Schema} (hpointer : s.pointer = none) (hvalue : s.constValue = some .null) :
      OffersNull s
  | item {s i : Schema} (hopen : IsOpen s)
      (hunion : s.shape = some .enum ∨ s.shape = none ∧ s.operator = .or) (hitem : i ∈ s.items)
      (h : OffersNull i) : OffersNull s
  | only {s i : Schema} (hopen : IsOpen s) (hshape : s.shape = none) (hitems : s.items = [i])
      (h : OffersNull i) : OffersNull s

/-- A schema whose shape is neither null nor that of an enumeration offers no null. -/
lemma not_offersNull_of_shape {shape : Shape} (hvalue : s.constValue = none)
    (hshape : s.shape = some shape) (hother : shape ≠ .null ∧ shape ≠ .enum) : ¬ OffersNull s := by
  intro h
  cases h with
  | null hopen hnull => exact hother.1 (Option.some.inj (hshape.symm.trans hnull))
  | constant hpointer hconst => simp [hvalue] at hconst
  | item hopen hunion hitem h => simp [hshape, hother.2] at hunion
  | only hopen hnone hitems h => simp [hshape] at hnone

lemma offersNull_iff_of_union (hopen : IsOpen s)
    (hunion : s.shape = some .enum ∨ s.shape = none ∧ s.operator = .or) :
    OffersNull s ↔ ∃ i ∈ s.items, OffersNull i := by
  refine ⟨fun h => ?_, fun ⟨i, hi, h⟩ => .item hopen hunion hi h⟩
  cases h with
  | null _ hnull => simp [hnull] at hunion
  | constant _ hconst => simp [hopen.constValue] at hconst
  | item _ _ hitem h => exact ⟨_, hitem, h⟩
  | only _ _ hitems h => exact ⟨_, by simp [hitems], h⟩

lemma offersNull_iff_of_intersection (hopen : IsOpen s) (hshape : s.shape = none)
    (hoperator : s.operator = .and) : OffersNull s ↔ ∃ i, s.items = [i] ∧ OffersNull i := by
  refine ⟨fun h => ?_, fun ⟨i, hi, h⟩ => .only hopen hshape hi h⟩
  cases h with
  | null _ hnull => simp [hshape] at hnull
  | constant _ hconst => simp [hopen.constValue] at hconst
  | item _ hunion _ _ => simp [hshape, hoperator] at hunion
  | only _ _ hitems h => exact ⟨_, hitems, h⟩

/-! ### Null among the alternatives of a type -/

/-- A type is flat, and null is one of its alternatives exactly if a schema offers it. -/
structure Reflects (s : Schema) (t : TypeExpr) : Prop where
  flat : t.Flat
  mem_iff : .keyword .null ∈ t.alternatives ↔ OffersNull s

/-- The types of a list of schemas are flat, as many as these, and one of them has null as an
alternative exactly if one of the schemas offers it. -/
structure ReflectsAll (items : List Schema) (types : List TypeExpr) : Prop where
  flat : ∀ t ∈ types, t.Flat
  length : types.length = items.length
  exists_iff : (∃ t ∈ types, .keyword .null ∈ t.alternatives) ↔ ∃ i ∈ items, OffersNull i

namespace Reflects

lemma of_other {t : TypeExpr} (hunion : t.isUnion = false)
    (hintersection : t.isIntersection = false) (h : t = .keyword .null ↔ OffersNull s) :
    Reflects s t where
  flat := .other hunion hintersection
  mem_iff := by rw [TypeExpr.alternatives_of_isUnion hunion, List.mem_singleton, eq_comm, h]

/-- The type of a schema whose shape is neither null nor that of an enumeration. -/
lemma of_shape {t : TypeExpr} {shape : Shape} (hunion : t.isUnion = false)
    (hintersection : t.isIntersection = false) (hnull : t ≠ .keyword .null)
    (hvalue : s.constValue = none) (hshape : s.shape = some shape)
    (hother : shape ≠ .null ∧ shape ≠ .enum) : Reflects s t :=
  .of_other hunion hintersection (iff_of_false hnull (not_offersNull_of_shape hvalue hshape hother))

/-- The type of a schema that is known by its shape. -/
lemma keyword {keyword : Keyword} {shape : Shape} (hopen : IsOpen s) (hshape : s.shape = some shape)
    (henum : shape ≠ .enum) (hnull : keyword = .null ↔ shape = .null) :
    Reflects s (.keyword keyword) := by
  refine .of_other rfl rfl ?_
  rw [TypeExpr.keyword.injEq, hnull]
  refine ⟨fun h => .null hopen (h ▸ hshape), fun h => ?_⟩
  by_contra hne
  exact not_offersNull_of_shape hopen.constValue hshape ⟨hne, henum⟩ h

/-- A composition of nothing is unknown. -/
lemma unknown (hopen : IsOpen s) (hshape : s.shape = none) (hitems : s.items = []) :
    Reflects s (.keyword .unknown) := by
  refine .of_other rfl rfl (iff_of_false (by simp) fun h => ?_)
  cases h with
  | null _ hnull => simp [hshape] at hnull
  | constant _ hconst => simp [hopen.constValue] at hconst
  | item _ _ hitem | only _ _ hitem => simp [hitems] at hitem

lemma union {types : List TypeExpr} (h : ReflectsAll s.items types) (hopen : IsOpen s)
    (hunion : s.shape = some .enum ∨ s.shape = none ∧ s.operator = .or) :
    Reflects s (unionOf types) := by
  have hiff := h.exists_iff.trans (offersNull_iff_of_union hopen hunion).symm
  by_cases hne : types = []
  · subst hne
    refine .of_other rfl rfl (iff_of_false ?_ (by simpa using hiff))
    simp [unionOf, TypeScript.members]
  · exact ⟨TypeScript.flat_unionOf h.flat,
      (TypeScript.mem_alternatives_unionOf h.flat hne).trans hiff⟩

lemma intersection {types : List TypeExpr} (h : ReflectsAll s.items types) (hne : types ≠ [])
    (hopen : IsOpen s) (hshape : s.shape = none) (hoperator : s.operator = .and) :
    Reflects s (intersectionOf types) where
  flat := TypeScript.flat_intersectionOf h.flat
  mem_iff := by
    rw [TypeScript.mem_alternatives_intersectionOf h.flat hne rfl,
      offersNull_iff_of_intersection hopen hshape hoperator]
    have hexists := h.exists_iff
    constructor
    · rintro ⟨t, rfl, ht⟩
      obtain ⟨i, hitems⟩ := List.length_eq_one_iff.mp h.length.symm
      rw [hitems] at hexists
      exact ⟨i, hitems, by simpa [ht] using hexists⟩
    · rintro ⟨i, hitems, hi⟩
      obtain ⟨t, rfl⟩ := List.length_eq_one_iff.mp (h.length.trans (by simp [hitems]))
      rw [hitems] at hexists
      exact ⟨t, rfl, by simpa [hi] using hexists⟩

lemma constant {value : Json} (hpointer : s.pointer = none) (hvalue : s.constValue = some value) :
    Reflects s (constantType value) := by
  have hoffers : OffersNull s ↔ value = .null := by
    refine ⟨fun h => ?_, fun h => .constant hpointer (h ▸ hvalue)⟩
    cases h with
    | null hopen | item hopen | only hopen => simp [hopen.constValue] at hvalue
    | constant _ hnull => exact Option.some.inj (hvalue.symm.trans hnull)
  cases value with
  | null => exact .of_other rfl rfl (iff_of_true rfl (hoffers.mpr rfl))
  | bool | number | str | arr | obj =>
    exact .of_other rfl rfl (iff_of_false (by simp [constantType]) (by simp [hoffers]))

section

variable (hnot : ¬ OffersNull s)

include hnot

lemma string (format : Option String) : Reflects s (stringType conversions format) := by
  have hnames : ∀ t ∈ [named "Blob", named "File"], t.Flat := by
    simp only [List.forall_mem_cons]
    exact ⟨.other rfl rfl, .other rfl rfl, by simp⟩
  have hbinary : .keyword .null ∉ (unionOf [named "Blob", named "File"]).alternatives := by
    rw [TypeScript.mem_alternatives_unionOf hnames (by simp)]
    simp [named, TypeExpr.alternatives]
  rw [stringType.eq_def]
  split
  · exact ⟨TypeScript.flat_unionOf hnames, iff_of_false hbinary hnot⟩
  · split_ifs <;> exact .of_other rfl rfl (iff_of_false (by simp [named]) hnot)
  · split_ifs <;> exact .of_other rfl rfl (iff_of_false (by simp [named]) hnot)
  · exact .of_other rfl rfl (iff_of_false (by simp) hnot)

lemma integer (format : Option String) : Reflects s (integerType conversions format) := by
  rw [integerType]
  split <;> exact .of_other rfl rfl (iff_of_false (by simp) hnot)

end

end Reflects

/-! ### Steps -/

lemma gives_offersNull_reference {pointer : String} (hpointer : s.pointer = some pointer) :
    Gives (referenceType pointer) fun _ t => Reflects s t := by
  have hnot : ¬ OffersNull s := by
    intro h
    cases h with
    | null hopen | item hopen | only hopen => simp [hopen.pointer] at hpointer
    | constant hnone => simp [hpointer] at hnone
  intro r
  rw [run_referenceType]
  refine ⟨grows_request r pointer .type, fun r' _ => ?_⟩
  cases (r.request pointer .type fileId true).1.name? with
  | some name => exact .of_other rfl rfl (iff_of_false (by simp [named]) hnot)
  | none => exact .of_other rfl rfl (iff_of_false (by simp) hnot)

mutual

/-- The type of a schema is flat, and null is one of its alternatives exactly if the schema offers
it. -/
theorem gives_offersNull (conversions : Conversions) (s : Schema) :
    Gives (typeOf conversions s) fun _ t => Reflects s t := by
  match s with
  | { pointer, shape, properties, required, additionalProperties, items, operator?, facets,
      constValue, documentation } =>
    have hitems := gives_offersNull_items conversions items
    rw [typeOf.eq_def]
    dsimp only
    split
    · exact gives_offersNull_reference rfl
    · exact .pure fun _ => .constant rfl rfl
    split
    · exact (gives_elementType conversions items).bind fun t => .pure fun _ _ =>
        .of_shape rfl rfl (by simp) rfl rfl (by decide)
    · exact hitems.bind fun ts => .pure fun _ _ => .of_shape rfl rfl (by simp) rfl rfl (by decide)
    · exact hitems.bind fun ts => .pure fun _ h => .union h ⟨rfl, rfl⟩ (.inl rfl)
    · exact (gives_propertyTypes conversions required properties).bind fun ps =>
        (gives_additionalType conversions additionalProperties).bind fun additional =>
          .pure fun _ _ _ => .of_shape rfl rfl (by simp) rfl rfl (by decide)
    · exact .pure fun _ => .string (not_offersNull_of_shape rfl rfl (by decide)) _
    · exact .pure fun _ => .integer (not_offersNull_of_shape rfl rfl (by decide)) _
    any_goals exact .pure fun _ => .keyword ⟨rfl, rfl⟩ rfl (by decide) (by decide)
    refine hitems.bind fun ts => ?_
    split
    · rename_i hempty
      refine .pure fun _ h => .unknown ⟨rfl, rfl⟩ rfl (List.length_eq_zero_iff.mp ?_)
      rw [← h.length, List.isEmpty_iff.mp hempty, List.length_nil]
    rename_i hempty
    split
    · rename_i hoperator
      exact .pure fun _ h => .intersection h (by simpa using hempty) ⟨rfl, rfl⟩ rfl hoperator
    · rename_i hoperator
      exact .pure fun _ h => .union h ⟨rfl, rfl⟩ (.inr ⟨rfl, hoperator⟩)

theorem gives_offersNull_items (conversions : Conversions) (items : List Schema) :
    Gives (typesOf conversions items) fun _ ts => ReflectsAll items ts := by
  match items with
  | [] => exact .pure fun _ => ⟨by simp, rfl, by simp⟩
  | s :: rest =>
    rw [typesOf]
    refine (gives_offersNull conversions s).bind fun t =>
      (gives_offersNull_items conversions rest).bind fun ts => .pure fun r hrest ht => ?_
    exact ⟨List.forall_mem_cons.mpr ⟨ht.flat, hrest.flat⟩, congrArg (· + 1) hrest.length, by
      simp only [List.mem_cons, exists_eq_or_imp, ht.mem_iff, hrest.exists_iff]⟩

end

lemma flat_typeUnder (conversions : Conversions) (r : Registry) (s : Schema) :
    (typeUnder conversions r s).Flat :=
  ((gives_offersNull conversions s r).2 _ (.refl _)).flat

/-! ### Widening -/

/-- Widening adds null to what the type of the schema is made of. -/
def TakesNull (s : Schema) : Prop :=
  s.admitsNull = false ∧ (s.isOpenUnion = true → s.constValue = none)

lemma isOpenUnion_iff : s.isOpenUnion = true
    ↔ s.pointer = none ∧ s.shape = none ∧ s.operator = .or ∧ s.items ≠ [] := by
  simp [Schema.isOpenUnion, and_assoc]

/-- The type of a union that can take up one more item. -/
lemma typeOf_openUnion (hunion : s.isOpenUnion = true) (hvalue : s.constValue = none) :
    typeOf conversions s = unionOf <$> typesOf conversions s.items := by
  obtain ⟨hpointer, hshape, hoperator, hitems⟩ := isOpenUnion_iff.mp hunion
  obtain ⟨pointer, shape, properties, required, additionalProperties, items, operator?, facets,
    constValue, documentation⟩ := s
  obtain ⟨item, rest, rfl⟩ := List.exists_cons_of_ne_nil hitems
  rw [Schema.operator] at hoperator
  subst hpointer hshape hvalue
  simp [typeOf, typesOf, hoperator]

/-- The type of one value does not depend on anything else. -/
lemma typeOf_constant {value : Json} (hpointer : s.pointer = none)
    (hvalue : s.constValue = some value) : typeOf conversions s = pure (constantType value) := by
  obtain ⟨pointer, shape, properties, required, additionalProperties, items, operator?, facets,
    constValue, documentation⟩ := s
  subst hpointer hvalue
  rw [typeOf.eq_def]

lemma typesOf_concat_null (items : List Schema) :
    typesOf conversions (items ++ [.ofShape .null])
      = (· ++ [.keyword .null]) <$> typesOf conversions items := by
  induction items with
  | nil => simp [typesOf, typeOf, Schema.ofShape]
  | cons s items ih => simp [typesOf, ih]

lemma isOpenUnion_concat (h : s.isOpenUnion = true) (t : Schema) :
    (s.setItems (s.items ++ [t]) .or).isOpenUnion = true := by
  obtain ⟨hpointer, hshape, -, hitems⟩ := isOpenUnion_iff.mp h
  have hseveral : 1 < (s.items ++ [t]).length := by
    rw [List.length_append, List.length_singleton]
    exact Nat.succ_lt_succ (List.length_pos_of_ne_nil hitems)
  refine isOpenUnion_iff.mpr ⟨hpointer, hshape, ?_, List.append_ne_nil_of_left_ne_nil hitems _⟩
  rw [Schema.operator, Schema.setItems, if_pos hseveral, Option.getD_some]

/-- The type of a schema that null is added to is a union with one more alternative. -/
lemma run_typeOf_orNull (h : TakesNull s) (conversions : Conversions) (r : Registry) :
    (typeOf conversions s.orNull).run r
      = (unionOf [((typeOf conversions s).run r).1, .keyword .null],
        ((typeOf conversions s).run r).2) := by
  obtain ⟨hadmits, hvalue⟩ := h
  rw [Schema.orNull, hadmits, if_neg Bool.false_ne_true]
  split_ifs with hunion
  · have hitems := (gives_offersNull_items conversions s.items r).2 _ (.refl _)
    have hne : ((typesOf conversions s.items).run r).1 ≠ [] := by
      rw [← List.length_pos_iff_ne_nil, hitems.length]
      exact List.length_pos_of_ne_nil (isOpenUnion_iff.mp hunion).2.2.2
    rw [typeOf_openUnion hunion (hvalue hunion),
      typeOf_openUnion (isOpenUnion_concat hunion _) (hvalue hunion)]
    have hitems' : (s.setItems (s.items ++ [.ofShape .null]) .or).items
      = s.items ++ [.ofShape .null] := rfl
    rw [hitems', typesOf_concat_null, StateT.run_map, StateT.run_map, StateT.run_map]
    exact Prod.ext (TypeScript.unionOf_cons_unionOf hitems.flat hne _).symm rfl
  · rw [Schema.documentedAs, typeOf_pair, Schema.undocumented, typeOf_documentation]
    rfl

/-- The type of any other schema stays as it is. -/
lemma typeOf_orNull_of_not_takesNull (h : ¬ TakesNull s) (conversions : Conversions) :
    typeOf conversions s.orNull = typeOf conversions s := by
  rw [Schema.orNull]
  split_ifs with hadmits hunion
  · rfl
  · obtain ⟨value, hvalue⟩ : ∃ value, s.constValue = some value := by
      refine Option.ne_none_iff_exists'.mp fun hnone => h ⟨by simpa using hadmits, fun _ => hnone⟩
    have hpointer := (isOpenUnion_iff.mp hunion).1
    rw [typeOf_constant hpointer hvalue]
    exact typeOf_constant hpointer hvalue
  · exact absurd ⟨by simpa using hadmits, fun hunion' => absurd hunion' hunion⟩ h

/-- Null is one of the alternatives of a schema, or widening adds it to what the type is made of. -/
def Widenable (s : Schema) : Prop := OffersNull s ∨ TakesNull s

/-! ### Schemas of a model -/

/-- A schema whose items are no alternatives of it. -/
def Encloses (s : Schema) : Prop :=
  s.shape = some .array ∨ s.shape = some .tuple ∨ s.shape = none ∧ s.operator = .and

section

variable {scope : Normalize.Scope} (h : Normalize.Built scope s)

include h

/-- A constant has the shape of its value. -/
lemma shape_of_constValue {value : Json} (hvalue : s.constValue = some value) :
    s.shape = some (Normalize.shapeOf value) := by
  induction h with
  | plain | reference | enumeration | constrained | object | array | tuple =>
    exact absurd hvalue (by simp [Schema.ofShape, Schema.reference, Normalize.enumeration,
      Normalize.constrain, Schema.setItems])
  | constant v =>
    obtain rfl : v = value := Option.some.inj hvalue
    rfl
  | @composed items operator _ ih =>
    unfold Schema.composed at hvalue ⊢
    split at hvalue
    · exact ih _ (by simp) hvalue
    · simp [Schema.setItems] at hvalue
  | documented a _ ih => exact ih hvalue
  | @orNull s _ ih =>
    rw [Schema.orNull] at hvalue ⊢
    split_ifs at hvalue ⊢ with hadmits hunion
    · exact ih hvalue
    · exact ih hvalue
    · simp [Schema.documentedAs, Schema.composed, Schema.setItems] at hvalue

/-- A schema that is null offers it. -/
lemma offersNull_of_shape (hshape : s.shape = some .null) : OffersNull s := by
  have hpointer : s.pointer = none := by
    refine Option.eq_none_iff_forall_ne_some.mpr fun pointer hpointer => ?_
    have := congrArg Schema.shape ((h.wellFormed s .self).pointer pointer hpointer)
    simp [hshape, Schema.reference] at this
  cases hvalue : s.constValue with
  | none => exact .null ⟨hpointer, hvalue⟩ hshape
  | some value =>
    have hnull : Normalize.shapeOf value = .null :=
      Option.some.inj ((shape_of_constValue h hvalue).symm.trans hshape)
    cases value with
    | null => exact .constant hpointer hvalue
    | number n => cases n <;> simp [Normalize.shapeOf] at hnull
    | bool | str | arr | obj => simp [Normalize.shapeOf] at hnull

/-- So does an item that is null. -/
lemma offersNull_of_item {item : Schema} (hitem : item ∈ s.items)
    (hshape : item.shape = some .null) : OffersNull item := by
  induction h with
  | plain | reference | constant | constrained | object =>
    exact absurd hitem (by simp [Schema.ofShape, Schema.reference, Normalize.constant,
      Normalize.constrain])
  | @enumeration vs _ =>
    obtain ⟨v, -, rfl⟩ := List.mem_map.mp hitem
    exact offersNull_of_shape (.constant v : Normalize.Built scope _) hshape
  | array minItems maxItems hbuilt =>
    obtain rfl := List.mem_singleton.mp hitem
    exact offersNull_of_shape hbuilt hshape
  | tuple minItems maxItems hbuilt => exact offersNull_of_shape (hbuilt _ hitem) hshape
  | @composed items operator hbuilt ih =>
    unfold Schema.composed at hitem
    split at hitem
    · exact ih _ (by simp) hitem
    · exact offersNull_of_shape (hbuilt _ hitem) hshape
  | documented a _ ih => exact ih hitem
  | @orNull s hbuilt ih =>
    rw [Schema.orNull] at hitem
    split_ifs at hitem with hadmits hunion
    · exact ih hitem
    · rcases List.mem_append.mp hitem with hitem | hitem
      · exact ih hitem
      · obtain rfl := List.mem_singleton.mp hitem
        exact .null ⟨rfl, rfl⟩ rfl
    · rcases List.mem_pair.mp hitem with rfl | rfl
      · have hself : s.shape = some .null := hshape
        simp [Schema.admitsNull, Schema.hasShape, hself] at hadmits
      · exact .null ⟨rfl, rfl⟩ rfl

/-- A schema with a null among its items offers null unless it encloses them. -/
lemma offersNull_iff_not_encloses {item : Schema} (hopen : IsOpen s) (hitem : item ∈ s.items)
    (hshape : item.shape = some .null) : OffersNull s ↔ ¬ Encloses s := by
  have hwell : s.WellFormed := h.wellFormed s .self
  have hoffers := offersNull_of_item h hitem hshape
  have hne : s.items ≠ [] := List.ne_nil_of_mem hitem
  cases hs : s.shape with
  | none =>
    cases hoperator : s.operator with
    | or =>
      exact iff_of_true (.item hopen (.inr ⟨hs, hoperator⟩) hitem hoffers)
        (by simp [Encloses, hs, hoperator])
    | and =>
      refine iff_of_false (fun hnull => ?_) (by simp [Encloses, hs, hoperator])
      obtain ⟨i, hitems, -⟩ := (offersNull_iff_of_intersection hopen hs hoperator).mp hnull
      exact (hwell.composition hs hopen.pointer).2 (by rw [hitems, List.length_singleton])
  | some shape =>
    by_cases hlist : shape ∈ [.array, .enum, .object, .tuple]
    · simp only [List.mem_cons, List.not_mem_nil, or_false] at hlist
      rcases hlist with rfl | rfl | rfl | rfl
      · exact iff_of_false (not_offersNull_of_shape hopen.constValue hs (by decide))
          (by simp [Encloses, hs])
      · exact iff_of_true (.item hopen (.inl hs) hitem hoffers) (by simp [Encloses, hs])
      · exact absurd (hwell.object hs).1 hne
      · exact iff_of_false (not_offersNull_of_shape hopen.constValue hs (by decide))
          (by simp [Encloses, hs])
    · exact absurd (hwell.other shape hs hlist).1 hne

/-- The schemas of a model that are not widened are those that enclose items and have null among
them. -/
lemma widenable_iff_of_built : Widenable s ↔ ¬ (s.admitsNull = true ∧ Encloses s) := by
  have hwell : s.WellFormed := h.wellFormed s .self
  have hconstant : s.shape = none → s.constValue = none := fun hshape =>
    Option.eq_none_iff_forall_ne_some.mpr fun value hvalue => by
      simpa [hshape] using shape_of_constValue h hvalue
  cases hadmits : s.admitsNull with
  | false =>
    exact iff_of_true (.inr ⟨hadmits, fun hunion => hconstant (isOpenUnion_iff.mp hunion).2.1⟩)
      (by simp)
  | true =>
    have htakes : ¬ TakesNull s := fun htakes => by simp [htakes.1] at hadmits
    rw [Widenable, or_iff_left htakes, and_iff_right rfl]
    by_cases hnull : s.shape = some .null
    · exact iff_of_true (offersNull_of_shape h hnull) (by simp [Encloses, hnull])
    obtain ⟨item, hitem, hshape⟩ : ∃ item ∈ s.items, item.shape = some .null := by
      simpa [Schema.admitsNull, Schema.hasShape, hnull] using hadmits
    have hne : s.items ≠ [] := List.ne_nil_of_mem hitem
    refine offersNull_iff_not_encloses h ⟨?_, ?_⟩ hitem hshape
    · refine Option.eq_none_iff_forall_ne_some.mpr fun pointer hpointer => hne ?_
      exact congrArg Schema.items (hwell.pointer pointer hpointer)
    · refine Option.eq_none_iff_forall_ne_some.mpr fun value hvalue => hne ?_
      have hleaf : Normalize.shapeOf value ∉ [.array, .enum, .object, .tuple] := by
        rw [Normalize.shapeOf.eq_def]
        split <;> decide
      exact (hwell.other _ (shape_of_constValue h hvalue) hleaf).1

end

/-- **Null is added exactly to the types of schemas that can be widened.** The type of a schema that
was made nullable is the union of its own type and null, and it has null as an alternative, exactly
if it had that before or null is added to what it is made of. Of the schemas of a model this is so
for all but arrays, tuples and intersections that have null among their items. -/
theorem typeOf_orNull_iff (conversions : Conversions) (s : Schema) (r : Registry) :
    ((typeOf conversions s.orNull).run r
          = (unionOf [((typeOf conversions s).run r).1, .keyword .null],
            ((typeOf conversions s).run r).2)
        ↔ Widenable s)
      ∧ (.keyword .null ∈ ((typeOf conversions s.orNull).run r).1.alternatives ↔ Widenable s)
      ∧ ∀ scope, Normalize.Built scope s →
        (Widenable s ↔ ¬ (s.admitsNull = true ∧ Encloses s)) := by
  refine and_assoc.mp ⟨?_, fun _ => widenable_iff_of_built⟩
  have hgiven := (gives_offersNull conversions s r).2 _ (.refl _)
  set given := (typeOf conversions s).run r with hgivendef
  have hnull : TypeExpr.Flat (.keyword .null) := .other rfl rfl
  have hpair : ∀ t ∈ [given.1, .keyword .null], t.Flat := by simp [hgiven.flat, hnull]
  by_cases htakes : TakesNull s
  · rw [run_typeOf_orNull htakes]
    refine ⟨iff_of_true rfl (.inr htakes), iff_of_true ?_ (.inr htakes)⟩
    rw [TypeScript.mem_alternatives_unionOf hpair (by simp)]
    exact ⟨.keyword .null, by simp, by simp [TypeExpr.alternatives]⟩
  · have hoffers : Widenable s ↔ OffersNull s := or_iff_left htakes
    rw [typeOf_orNull_of_not_takesNull htakes, ← hgivendef, hoffers, ← hgiven.mem_iff,
      ← TypeScript.unionOf_pair_eq_left_iff hgiven.flat hnull rfl]
    exact ⟨⟨fun h => (congrArg Prod.fst h).symm, fun h => Prod.ext h.symm rfl⟩, Iff.rfl⟩

/-- An array of nothing but null. -/
def nulls : Schema := (Schema.ofShape .array).setItems [.ofShape .null] .or

/-- It does not become an array or null when it is made nullable. -/
theorem exists_not_widened : ∃ (conversions : Conversions) (s : Schema) (r : Registry),
    (typeOf conversions s.orNull).run r
        ≠ (unionOf [((typeOf conversions s).run r).1, .keyword .null],
          ((typeOf conversions s).run r).2)
      ∧ .keyword .null ∉ ((typeOf conversions s.orNull).run r).1.alternatives := by
  have hnulls : nulls.orNull = nulls := rfl
  have htype : (typeOf {} nulls).run [] = (.array (.keyword .null), []) := rfl
  refine ⟨{}, nulls, [], ?_, ?_⟩
  · rw [hnulls, htype]
    exact fun h => absurd (congrArg Prod.fst h) (by decide +kernel)
  · rw [hnulls, htype]
    decide +kernel

end Types

end OpenApiTypes
