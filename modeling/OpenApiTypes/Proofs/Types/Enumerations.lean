/-
Constants and unions for the values of an enumeration.

* `Model.Schema.Enumerates`: a schema lists values, `Normalize.exists_enumerates`: as every schema
  of a model with the shape of an enumeration does;
* `Types.mem_alternatives_typeOf`: the alternatives of its type are the types of the values;
* `Types.memberTypes`, `Types.mem_memberTypes`: the types of the members of a constant, which for
  the constant of an enumeration are those of its texts, numbers and truth values;
* `Types.nodup_keys_enumMembers`: its keys are different;
* `Types.enumeration_of_run`: the members of the constant, and null if the schema admits it, stand
  for **the alternatives of the type exactly if no value is an array or an object**;
* `Types.exists_uncovered`: such a value is not among the members.
-/
import OpenApiTypes.Proofs.Naming.Fresh
import OpenApiTypes.Proofs.Normalize.Throughout
import OpenApiTypes.Proofs.Types.Nullable
import OpenApiTypes.Types.Declarations

namespace OpenApiTypes

open OpenApiTypes.Model (Documentation Schema Shape)

/-! ### Schemas that list values -/

namespace Model.Schema

/-- A schema lists values: it is their enumeration, whatever is said about it. -/
structure Enumerates (s : Schema) (vs : List Json) : Prop where
  nonempty : vs ≠ []
  eq : s = { Normalize.enumeration vs with documentation := s.documentation }

variable {s : Schema} {vs : List Json}

namespace Enumerates

lemma pointer (h : s.Enumerates vs) : s.pointer = none := by rw [h.eq]; rfl

lemma constValue (h : s.Enumerates vs) : s.constValue = none := by rw [h.eq]; rfl

lemma shape (h : s.Enumerates vs) : s.shape = some .enum := by rw [h.eq]; rfl

lemma items (h : s.Enumerates vs) : s.items = vs.map Normalize.constant := by rw [h.eq]; rfl

/-- It admits null if null is among its values. -/
lemma admitsNull_iff (h : s.Enumerates vs) : s.admitsNull = true ↔ .null ∈ vs := by
  have hnull : ∀ v, (Normalize.constant v).hasShape .null = true ↔ v = .null := by
    intro v
    cases v with
    | number n => cases n <;> simp [hasShape, Normalize.constant, Normalize.shapeOf]
    | _ => simp [hasShape, Normalize.constant, Normalize.shapeOf]
  have hself : s.hasShape .null = false := by rw [hasShape, h.shape]; rfl
  rw [admitsNull, hself, Bool.false_or, h.items, List.any_map, List.any_eq_true]
  simp [hnull]

end Enumerates

end Model.Schema

namespace Normalize

/-- What has the shape of an enumeration lists values. -/
lemma inherited_enumerates (scope : Scope) :
    Inherited scope fun s => s.shape = some .enum → ∃ vs, s.Enumerates vs where
  document d h hshape := by
    obtain ⟨vs, hvs, heq⟩ := h hshape
    exact ⟨vs, hvs, by rw [heq]⟩
  plain shape hshape henum := by
    obtain rfl : shape = .enum := Option.some.inj henum
    exact absurd hshape (by decide)
  reference _ _ henum := nomatch henum
  constant v henum := by
    cases v with
    | number n => cases n <;> exact nomatch henum
    | _ => exact nomatch henum
  enumeration vs hvs _ := ⟨vs, hvs, rfl⟩
  constrained shape hshape s henum := by
    obtain rfl : shape = .enum := Option.some.inj henum
    exact absurd hshape (by decide)
  object _ _ _ _ henum := nomatch henum
  array _ _ _ henum := nomatch henum
  tuple _ _ _ henum := nomatch henum
  composition _ _ _ henum := nomatch henum
  grown hopen _ henum := by
    have hshape := (Types.isOpenUnion_iff.mp hopen).2.1
    exact absurd (hshape.symm.trans henum) (by simp)

/-- Every schema of a model with the shape of an enumeration lists values. -/
lemma exists_enumerates {source : Spec.Source} {options : Options} {r : Reported Model.Api}
    (h : run source options = .ok r) {s : Schema} (hs : r.value.Holds s)
    (hshape : s.hasShape .enum = true) : ∃ vs, s.Enumerates vs :=
  (inherited_enumerates _).of_holds h hs (beq_iff_eq.mp hshape)

end Normalize

namespace Types

open OpenApiTypes.Output (Registry)
open OpenApiTypes.TypeScript (Expr Literal TypeExpr unionOf)

variable {s : Schema} {vs : List Json} {t : TypeExpr}

/-! ### The union -/

lemma typesOf_constants (conversions : Conversions) (vs : List Json) :
    typesOf conversions (vs.map Normalize.constant) = pure (vs.map constantType) := by
  induction vs with
  | nil => rfl
  | cons v vs ih =>
    have hv : typeOf conversions (Normalize.constant v) = pure (constantType v) :=
      typeOf_constant rfl rfl
    rw [List.map_cons, typesOf, ih, hv]
    rfl

/-- The type of a schema that lists values is the union of their types, and names nothing. -/
lemma typeOf_of_enumerates (h : s.Enumerates vs) (conversions : Conversions) :
    typeOf conversions s = pure (unionOf (vs.map constantType)) := by
  have hitems := h.items
  have hshape := h.shape
  have hpointer := h.pointer
  have hvalue := h.constValue
  obtain ⟨pointer, shape, properties, required, additionalProperties, items, operator?, facets,
    constValue, documentation⟩ := s
  subst hpointer hshape hvalue hitems
  rw [typeOf.eq_def]
  simp only [typesOf_constants]
  rfl

lemma not_isUnion_constantType (v : Json) :
    (constantType v).isUnion = false ∧ (constantType v).isIntersection = false := by
  cases v <;> exact ⟨rfl, rfl⟩

/-- Its alternatives are the types of the values. -/
lemma mem_alternatives_typeOf (h : s.Enumerates vs) (conversions : Conversions) (r : Registry) :
    t ∈ ((typeOf conversions s).run r).1.alternatives ↔ ∃ v ∈ vs, t = constantType v := by
  have hflat : ∀ t ∈ vs.map constantType, t.Flat := by
    intro t ht
    obtain ⟨v, -, rfl⟩ := List.mem_map.mp ht
    exact .other (not_isUnion_constantType v).1 (not_isUnion_constantType v).2
  have hne : vs.map constantType ≠ [] := by simpa using h.nonempty
  rw [typeOf_of_enumerates h]
  refine (TypeScript.mem_alternatives_unionOf hflat hne).trans ?_
  simp only [List.mem_map, exists_exists_and_eq_and,
    TypeExpr.alternatives_of_isUnion (not_isUnion_constantType _).1, List.mem_singleton]

/-! ### The constant -/

/-- The members of an object that is constant. -/
def constantMembers : Expr → List (String × Expr)
  | .asConst (.object entries) => entries
  | _ => []

/-- The type of a literal that is constant. -/
def literalType? : Expr → Option TypeExpr
  | .literal l => some (.literal l)
  | _ => none

/-- The types of the values of the members of a constant. -/
def memberTypes (e : Expr) : List TypeExpr := (constantMembers e).filterMap (literalType? ·.2)

/-- The value of a text, a number or a truth value as a literal. -/
def scalarLiteral? : Json → Option Literal
  | .str s => some (.string s)
  | .number n => some (.number n.text)
  | .bool b => some (.boolean b)
  | .null | .arr _ | .obj _ => none

/-- A key that is new is not among those taken before. -/
lemma enumKey_notMem (taken : List String) (label : String) : enumKey taken label ∉ taken := by
  rw [enumKey]
  split_ifs with htaken
  · have hfree : taken.contains (Naming.firstFree taken.contains
        (fun n => NamingConvention.screaming.apply label ++ "_" ++ toString n) taken.length)
        = false :=
      Naming.firstFree_not_taken id (Text.append_number_injective _) (by simp)
    simpa using hfree
  · simpa using htaken

/-- The keys of the members are different from each other, and from those taken before. -/
lemma nodup_keys_enumMembers (taken : List String) (constants : List (String × Expr)) :
    ((enumMembers taken constants).map Prod.fst).Nodup
      ∧ ∀ key ∈ (enumMembers taken constants).map Prod.fst, key ∉ taken := by
  induction constants generalizing taken with
  | nil => simp [enumMembers]
  | cons c constants ih =>
    obtain ⟨label, value⟩ := c
    obtain ⟨hnodup, hnew⟩ := ih (enumKey taken label :: taken)
    rw [enumMembers, List.map_cons]
    refine ⟨List.nodup_cons.mpr ⟨fun hmem => hnew _ hmem List.mem_cons_self, hnodup⟩, ?_⟩
    refine List.forall_mem_cons.mpr ⟨enumKey_notMem taken label, fun key hkey => ?_⟩
    exact fun htaken => hnew key hkey (List.mem_cons_of_mem _ htaken)

/-- There is one member for each constant, with its value. -/
lemma values_enumMembers (taken : List String) (constants : List (String × Expr)) :
    (enumMembers taken constants).map Prod.snd = constants.map Prod.snd := by
  induction constants generalizing taken with
  | nil => rfl
  | cons c constants ih => rw [enumMembers, List.map_cons, List.map_cons, ih]

lemma values_enumObject (s : Schema) :
    (constantMembers (enumObject s)).map Prod.snd
      = (s.items.filterMap fun item => item.constValue.bind scalarLiteral?).map Expr.literal := by
  have hvalue : ∀ v, (enumConstant? v).map Prod.snd = (scalarLiteral? v).map Expr.literal := by
    intro v
    cases v <;> rfl
  rw [enumObject, constantMembers, values_enumMembers, List.map_filterMap, List.map_filterMap]
  congr 1
  funext item
  cases item.constValue with
  | none => rfl
  | some v => exact hvalue v

/-- The types of the members are those of the texts, numbers and truth values. -/
lemma mem_memberTypes (h : s.Enumerates vs) :
    t ∈ memberTypes (enumObject s) ↔ ∃ v ∈ vs, ∃ l, scalarLiteral? v = some l ∧ t = .literal l := by
  have htypes : memberTypes (enumObject s)
      = ((constantMembers (enumObject s)).map Prod.snd).filterMap literalType? := by
    rw [memberTypes, List.filterMap_map]
    rfl
  rw [htypes, values_enumObject, h.items, List.filterMap_map, List.filterMap_map]
  simp only [List.mem_filterMap, Function.comp_apply]
  constructor
  · rintro ⟨l, ⟨v, hv, hl⟩, ht⟩
    exact ⟨v, hv, l, hl, (Option.some.inj ht).symm⟩
  · rintro ⟨v, hv, l, hl, rfl⟩
    exact ⟨l, ⟨v, hv, hl⟩, rfl⟩

lemma unknown_notMem_memberTypes (h : s.Enumerates vs) :
    .keyword .unknown ∉ memberTypes (enumObject s) := by
  rw [mem_memberTypes h]
  simp

/-! ### Both together -/

/-- An array or an object, which has no literal type. -/
def isComposite : Json → Bool
  | .arr _ | .obj _ => true
  | _ => false

/-- What the type of a value is. -/
lemma eq_constantType_iff (v : Json) : t = constantType v ↔
    (∃ l, scalarLiteral? v = some l ∧ t = .literal l) ∨ v = .null ∧ t = .keyword .null
      ∨ isComposite v = true ∧ t = .keyword .unknown := by
  cases v <;> simp [constantType, scalarLiteral?, isComposite]

/-- The constant of an enumeration and its union, for every schema of a model that has the shape of
one: the alternatives of the union are the types of the members, null if the schema admits it, and
`unknown` if a value is an array or an object. Without the last they are **the same exactly if there
is no such value**. The keys of the members are different, and there is one member for each value
that is a text, a number or a truth value, in the order of the values. -/
theorem enumeration_of_run {source : Spec.Source} {options : Normalize.Options}
    {r : Reported Model.Api} (h : Normalize.run source options = .ok r)
    (hs : r.value.Holds s) (hshape : s.hasShape .enum = true) (conversions : Conversions)
    (names : Registry) :
    let union := ((typeOf conversions s).run names).1
    let composite := ∃ item ∈ s.items, ∃ v ∈ item.constValue, isComposite v = true
    (∀ t, t ∈ union.alternatives ↔ t ∈ memberTypes (enumObject s)
        ∨ s.admitsNull = true ∧ t = .keyword .null ∨ composite ∧ t = .keyword .unknown)
      ∧ ((∀ t, t ∈ union.alternatives ↔ t ∈ memberTypes (enumObject s)
          ∨ s.admitsNull = true ∧ t = .keyword .null) ↔ ¬ composite)
      ∧ ((constantMembers (enumObject s)).map Prod.fst).Nodup
      ∧ (constantMembers (enumObject s)).map Prod.snd
        = (s.items.filterMap fun item => item.constValue.bind scalarLiteral?).map Expr.literal := by
  intro union composite
  obtain ⟨vs, hvs⟩ := Normalize.exists_enumerates h hs hshape
  have hcomposite : composite ↔ ∃ v ∈ vs, isComposite v = true := by
    simp [composite, hvs.items, Normalize.constant]
  have halternatives : ∀ t, t ∈ union.alternatives ↔ t ∈ memberTypes (enumObject s)
      ∨ s.admitsNull = true ∧ t = .keyword .null ∨ composite ∧ t = .keyword .unknown := by
    intro t
    rw [mem_alternatives_typeOf hvs, mem_memberTypes hvs, hvs.admitsNull_iff, hcomposite]
    simp only [eq_constantType_iff]
    constructor
    · rintro ⟨v, hv, hl | ⟨rfl, ht⟩ | ⟨hc, ht⟩⟩
      · exact .inl ⟨v, hv, hl⟩
      · exact .inr (.inl ⟨hv, ht⟩)
      · exact .inr (.inr ⟨⟨v, hv, hc⟩, ht⟩)
    · rintro (⟨v, hv, hl⟩ | ⟨hv, ht⟩ | ⟨⟨v, hv, hc⟩, ht⟩)
      · exact ⟨v, hv, .inl hl⟩
      · exact ⟨_, hv, .inr (.inl ⟨rfl, ht⟩)⟩
      · exact ⟨v, hv, .inr (.inr ⟨hc, ht⟩)⟩
  refine ⟨halternatives, ⟨fun hsame hcontains => ?_, fun hnone t => ?_⟩,
    (nodup_keys_enumMembers [] _).1, values_enumObject s⟩
  · have hmem := (halternatives (.keyword .unknown)).mpr (.inr (.inr ⟨hcontains, rfl⟩))
    rcases (hsame _).mp hmem with hmem | ⟨-, hmem⟩
    · exact unknown_notMem_memberTypes hvs hmem
    · exact absurd hmem (by simp)
  · rw [halternatives t]
    simp [hnone]

/-- A document with two enumerations: one of two texts with the same key and null, and one with an
object among its values. -/
def listed : Spec.Source := Spec.Source.ofSchemas
  [("Size", .obj [("enum", .arr [.str "xl", .str "XL", .null])]),
    ("Mode", .obj [("enum", .arr [.str "auto", .obj [("level", .number (.int 1))]])])]
  [("Size", .inline { enumValues := [.str "xl", .str "XL", .null] }),
    ("Mode", .inline { enumValues := [.str "auto", .obj [("level", .number (.int 1))]] })]

lemma isRead_listed : listed.IsRead := by
  refine Spec.Source.isRead_ofSchemas (by decide +kernel) ?_
  simp [Json.entries?, Spec.Position.ofJson?, Spec.Schema.ofMembers?, Entries.get?,
    List.lookup_cons]
  rfl

lemma position_enumValues (scope : Normalize.Scope) (inlining : Normalize.Inlining) (v : Json)
    (vs : List Json) (location : String) :
    Normalize.position scope inlining (.inline { enumValues := v :: vs }) location
      = ⟨Normalize.enumeration (v :: vs), []⟩ := by
  rw [Normalize.position_inline]
  rfl

/-- Both are in its model. -/
lemma holds_listed {vs : List Json} (h : vs = [.str "xl", .str "XL", .null]
    ∨ vs = [.str "auto", .obj [("level", .number (.int 1))]]) :
    (Normalize.api listed ⟨.declaredId, [], []⟩).value.Holds (Normalize.enumeration vs) := by
  refine ⟨Normalize.enumeration vs, ?_, .self⟩
  simp only [Model.Api.roots, List.mem_append]
  refine .inl (.inl (.inl ?_))
  rcases h with rfl | rfl <;>
    simp [Normalize.api, Model.Api.catalog, listed, Spec.Source.ofSchemas, Entries.values,
      Normalize.componentSchemas, position_enumValues]

/-- Two texts have the same key, so that the second one gets a number; null has none. -/
theorem enumeration_of_run_listed :
    ∃ r s, Normalize.run listed ⟨.declaredId, [], []⟩ = .ok r ∧ r.value.Holds s
      ∧ s.hasShape .enum = true
      ∧ (constantMembers (enumObject s)).map Prod.fst = ["XL", "XL_2"]
      ∧ ((∀ t, t ∈ ((typeOf {} s).run []).1.alternatives ↔ t ∈ memberTypes (enumObject s)
          ∨ s.admitsNull = true ∧ t = .keyword .null)
        ↔ ¬ ∃ item ∈ s.items, ∃ v ∈ item.constValue, isComposite v = true) := by
  have hholds := holds_listed (.inl rfl)
  have hrun : Normalize.run listed ⟨.declaredId, [], []⟩
      = .ok (Normalize.api listed ⟨.declaredId, [], []⟩) := rfl
  exact ⟨_, _, hrun, hholds, rfl, by decide +kernel, (enumeration_of_run hrun hholds rfl {} []).2.1⟩

/-- The type of the component has `unknown` among its alternatives, which no member of the constant
stands for. -/
theorem exists_uncovered : listed.IsRead ∧ ∃ r s,
    Normalize.run listed ⟨.declaredId, [], []⟩ = .ok r ∧ r.value.Holds s ∧ s.hasShape .enum = true
      ∧ ¬ ∀ t, t ∈ ((typeOf {} s).run []).1.alternatives ↔ t ∈ memberTypes (enumObject s)
        ∨ s.admitsNull = true ∧ t = .keyword .null := by
  refine ⟨isRead_listed, _, _, rfl, holds_listed (.inr rfl), rfl, fun hsame => ?_⟩
  have hvs : (Normalize.enumeration [.str "auto", .obj [("level", .number (.int 1))]]).Enumerates
      [.str "auto", .obj [("level", .number (.int 1))]] := ⟨by simp, rfl⟩
  have hmem := (mem_alternatives_typeOf hvs {} []).mpr
    ⟨.obj [("level", .number (.int 1))], by simp, rfl⟩
  rcases (hsame _).mp hmem with hmem | ⟨-, hmem⟩
  · exact unknown_notMem_memberTypes hvs hmem
  · exact absurd hmem (by simp [constantType])

end Types

end OpenApiTypes
