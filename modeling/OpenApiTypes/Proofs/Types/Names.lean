/-
The names in the type of a schema.

* `Types.Sound`: the names given in the file of types are distinct, and none is withdrawn;
* `Types.Accounted`: a type is built in, or it is the name given to a component;
* `Types.Accounts`: a step that gives names to nothing but references, and whose result mentions
  accounted types only;
* `Types.accounts_typeOf`: the type of a schema is made in such a step, if the schema refers to
  components only.
-/
import OpenApiTypes.Proofs.Model.Parts
import OpenApiTypes.Proofs.TypeScript.Mentions
import OpenApiTypes.Proofs.Types.Typed

namespace OpenApiTypes.Types

open OpenApiTypes.Model
open OpenApiTypes.Output (Namespace Registry)
open OpenApiTypes.TypeScript (Mention Property TypeExpr builtinTypes intersectionOf listMentions
  mem_mentions_intersectionOf mem_mentions_unionOf named optionMentions propertyMentions unionOf)

variable {α β : Type} {names : List String} {r r' : Registry}

/-! ### Names of types -/

/-- The names given in the file of types are distinct, and none is withdrawn. -/
structure Sound (r : Registry) : Prop where
  types : r.Distinct .type fileId
  values : r.Distinct .value fileId
  active : ∀ {pointer ns e}, r.status? pointer ns fileId = some e → ∃ name, e = .active name

lemma sound_nil : Sound [] :=
  ⟨Registry.distinct_nil _ _, Registry.distinct_nil _ _, by simp [Registry.status?_nil]⟩

lemma sound_registerFile (h : Sound r) (file : String) (convention : NamingConvention) :
    Sound (r.registerFile file convention) :=
  ⟨h.types.registerFile _ _, h.values.registerFile _ _, fun he =>
    h.active (by rwa [Registry.status?_registerFile] at he)⟩

lemma sound_request (h : Sound r) (pointer : String) (ns : Namespace) :
    Sound (r.request pointer ns fileId true).2 := by
  have hactive : r.Unwithdrawn fileId := fun _ _ _ he => h.active he
  exact ⟨h.types.request _ _ _, h.values.request _ _ _, fun he => hactive.request pointer ns he⟩

/-- A request in the file of types is answered by a name, which is then that of the reference. -/
lemma request_active (h : Sound r) (pointer : String) (ns : Namespace) :
    ∃ name created, (r.request pointer ns fileId true).1 = .active name created
      ∧ (r.request pointer ns fileId true).2.status? pointer ns fileId = some (.active name) := by
  have hactive : r.Unwithdrawn fileId := fun _ _ _ he => h.active he
  obtain ⟨name, created, hname⟩ := hactive.exists_name pointer ns
  exact ⟨name, created, hname, Registry.status?_request (by simp [hname, Output.Identifier.name?])⟩

/-- A type is built in, or it is the name given to a component. -/
def Accounted (names : List String) (r : Registry) (m : Mention) : Prop :=
  m.1 = .type ∧ (m.2 ∈ builtinTypes
    ∨ ∃ n ∈ names, r.status? (Pointer.schema n) .type fileId = some (.active m.2))

lemma Accounted.mono {m : Mention} (h : Accounted names r m) (hr : r.Extends r') :
    Accounted names r' m :=
  ⟨h.1, h.2.imp id fun ⟨n, hn, he⟩ => ⟨n, hn, hr he⟩⟩

/-! ### Steps -/

/-- A step that only ever adds names, and whose result mentions nothing but accounted types if
`given` are accounted for before. -/
def Accounts (names : List String) (given : List Mention) (x : StateM Registry α)
    (mentions : α → List Mention) : Prop :=
  ∀ r, Sound r → (∀ m ∈ given, Accounted names r m) →
    Sound (x.run r).2 ∧ r.Extends (x.run r).2
      ∧ ∀ m ∈ mentions (x.run r).1, Accounted names (x.run r).2 m

namespace Accounts

variable {given own : List Mention} {x : StateM Registry α} {mentions : α → List Mention}

lemma pure {a : α} (h : ∀ m ∈ mentions a, m ∈ given ∨ m.1 = .type ∧ m.2 ∈ builtinTypes) :
    Accounts names given (pure a) mentions := by
  intro r hr hgiven
  refine ⟨hr, Registry.Extends.refl r, fun m hm => ?_⟩
  rcases h m hm with hm | hm
  · exact hgiven m hm
  · exact ⟨hm.1, .inl hm.2⟩

lemma bind {f : α → StateM Registry β} {all : β → List Mention}
    (hx : Accounts names given x mentions)
    (hf : ∀ a, Accounts names (given ++ mentions a) (f a) all) :
    Accounts names given (x >>= f) all := by
  intro r hr hgiven
  obtain ⟨hsound, hextends, hmentions⟩ := hx r hr hgiven
  have hall : ∀ m ∈ given ++ mentions (x.run r).1, Accounted names (x.run r).2 m := by
    intro m hm
    rcases List.mem_append.mp hm with hm | hm
    · exact (hgiven m hm).mono hextends
    · exact hmentions m hm
  obtain ⟨hsound', hextends', hmentions'⟩ := hf _ _ hsound hall
  exact ⟨hsound', hextends.trans hextends', hmentions'⟩

lemma weaken (hx : Accounts names [] x mentions) : Accounts names given x mentions :=
  fun r hr _ => hx r hr (by simp)

end Accounts

/-- The type of a reference to a component is the name given to it. -/
lemma accounts_referenceType {n : String} (hn : n ∈ names) :
    Accounts names [] (referenceType (Pointer.schema n)) TypeExpr.mentions := by
  intro r hr _
  obtain ⟨name, created, hresult, hentry⟩ := request_active hr (Pointer.schema n) .type
  have hrun : (referenceType (Pointer.schema n)).run r
      = (named name, (r.request (Pointer.schema n) .type fileId true).2) := by
    rw [run_referenceType, hresult]
    rfl
  rw [hrun]
  refine ⟨sound_request hr _ _, Registry.extends_request r _ _ _, fun m hm => ?_⟩
  obtain rfl : m = (.type, name) := by simpa [named, TypeExpr.mentions, listMentions] using hm
  exact ⟨rfl, .inr ⟨n, hn, hentry⟩⟩

/-! ### Types of schemas -/

lemma accounts_pure_of_isEmpty {given : List Mention} {t : TypeExpr} (h : t.mentions = []) :
    Accounts names given (pure t) TypeExpr.mentions :=
  .pure fun m hm => by simp [h] at hm

@[simp] lemma mentions_constantType (v : Json) : (constantType v).mentions = [] := by
  cases v <;> simp [constantType, TypeExpr.mentions]

lemma accounts_stringType (conversions : Conversions) (format : Option String) :
    Accounts names [] (pure (stringType conversions format)) TypeExpr.mentions := by
  refine .pure fun m hm => .inr ?_
  have hbuiltin : ∀ name ∈ builtinTypes, m ∈ (named name).mentions →
      m.1 = .type ∧ m.2 ∈ builtinTypes := by
    intro name hname hm
    obtain rfl : m = (.type, name) := by simpa [named, TypeExpr.mentions, listMentions] using hm
    exact ⟨rfl, hname⟩
  unfold stringType at hm
  split at hm
  · obtain ⟨t, ht, hm⟩ := mem_mentions_unionOf hm
    simp only [List.mem_cons, List.not_mem_nil, or_false] at ht
    rcases ht with rfl | rfl
    · exact hbuiltin "Blob" (by decide) hm
    · exact hbuiltin "File" (by decide) hm
  all_goals
    first
      | (split at hm
         · exact hbuiltin "Date" (by decide) hm
         · simp [TypeExpr.mentions] at hm)
      | simp [TypeExpr.mentions] at hm

lemma mem_mentions_indexType {properties : List (Property TypeExpr)} {additional : TypeExpr}
    {m : Mention} (h : m ∈ (indexType properties additional).mentions) :
    m ∈ propertyMentions properties ++ additional.mentions := by
  unfold indexType at h
  rw [TypeScript.propertyMentions_eq]
  split at h
  · exact List.mem_append_right _ h
  · obtain ⟨t, ht, hm⟩ := mem_mentions_unionOf h
    simp only [List.mem_append, List.mem_map, List.mem_singleton] at ht
    rcases ht with (⟨p, hp, rfl⟩ | ht) | rfl
    · exact List.mem_append_left _ (List.mem_flatMap.mpr ⟨p, hp, hm⟩)
    · split at ht
      · obtain rfl := List.mem_singleton.mp ht
        simp [TypeExpr.mentions] at hm
      · simp at ht
    · exact List.mem_append_right _ hm

mutual

/-- The type of a schema that refers to components only mentions accounted types only. -/
theorem accounts_typeOf (conversions : Conversions) (s : Schema) (hs : s.RefersOnlyTo names) :
    Accounts names [] (typeOf conversions s) TypeExpr.mentions := by
  have hpointer := hs s .self
  match s with
  | { pointer, shape, properties, required, additionalProperties, items, operator?, facets,
      constValue, documentation } =>
    have hitems : ∀ i ∈ items, i.RefersOnlyTo names := fun i => hs.of_mem_items
    have hproperties : ∀ p ∈ properties, p.2.RefersOnlyTo names := fun p => hs.of_mem_properties
    have hadditional : ∀ a ∈ additionalProperties, a.RefersOnlyTo names := fun a => hs.of_additional
    rw [typeOf.eq_def]
    dsimp only
    split
    · rename_i pointer
      obtain ⟨n, hn, rfl⟩ := hpointer pointer rfl
      exact accounts_referenceType hn
    · exact accounts_pure_of_isEmpty (by simp)
    split
    · refine (accounts_elementType conversions items hitems).bind fun t => .pure fun m hm => .inl ?_
      simpa [TypeExpr.mentions] using hm
    · refine (accounts_typesOf conversions items hitems).bind fun ts => .pure fun m hm => .inl ?_
      simpa [TypeExpr.mentions] using hm
    · refine (accounts_typesOf conversions items hitems).bind fun ts => .pure fun m hm => .inl ?_
      obtain ⟨t, ht, hm⟩ := mem_mentions_unionOf hm
      rw [TypeScript.listMentions_eq]
      simpa using ⟨t, ht, hm⟩
    · refine (accounts_propertyTypes conversions required properties hproperties).bind fun ps =>
        ((accounts_additionalType conversions additionalProperties hadditional).weaken).bind
          fun a => .pure fun m hm => .inl ?_
      rw [TypeExpr.mentions] at hm
      rcases List.mem_append.mp hm with hm | hm
      · exact List.mem_append_left _ (by simpa using hm)
      · cases a with
        | none => simp [optionMentions] at hm
        | some a => simpa [optionMentions] using mem_mentions_indexType hm
    · exact accounts_stringType conversions _
    · refine accounts_pure_of_isEmpty ?_
      unfold integerType
      split <;> rfl
    any_goals exact accounts_pure_of_isEmpty rfl
    refine (accounts_typesOf conversions items hitems).bind fun ts => ?_
    split
    · exact accounts_pure_of_isEmpty rfl
    split
    · refine .pure fun m hm => .inl ?_
      obtain ⟨t, ht, hm⟩ := mem_mentions_intersectionOf hm
      rw [TypeScript.listMentions_eq]
      simpa using ⟨t, ht, hm⟩
    · refine .pure fun m hm => .inl ?_
      obtain ⟨t, ht, hm⟩ := mem_mentions_unionOf hm
      rw [TypeScript.listMentions_eq]
      simpa using ⟨t, ht, hm⟩

theorem accounts_elementType (conversions : Conversions) (items : List Schema)
    (h : ∀ i ∈ items, i.RefersOnlyTo names) :
    Accounts names [] (elementType conversions items) TypeExpr.mentions := by
  match items with
  | [] => exact accounts_pure_of_isEmpty rfl
  | s :: _ => exact accounts_typeOf conversions s (h s List.mem_cons_self)

theorem accounts_typesOf (conversions : Conversions) (items : List Schema)
    (h : ∀ i ∈ items, i.RefersOnlyTo names) :
    Accounts names [] (typesOf conversions items) listMentions := by
  match items with
  | [] => exact .pure (by simp [listMentions])
  | s :: rest =>
    rw [typesOf]
    refine (accounts_typeOf conversions s (h s List.mem_cons_self)).bind fun t =>
      (accounts_typesOf conversions rest fun i hi => h i (List.mem_cons_of_mem _ hi)).weaken.bind
        fun ts => .pure fun m hm => .inl ?_
    simpa [listMentions] using hm

theorem accounts_propertyTypes (conversions : Conversions) (required : List String)
    (properties : List (String × Schema)) (h : ∀ p ∈ properties, p.2.RefersOnlyTo names) :
    Accounts names [] (propertyTypes conversions required properties) propertyMentions := by
  match properties with
  | [] => exact .pure (by simp [propertyMentions])
  | (name, s) :: rest =>
    rw [propertyTypes]
    refine (accounts_typeOf conversions s (h _ List.mem_cons_self)).bind fun t =>
      (accounts_propertyTypes conversions required rest
        fun p hp => h p (List.mem_cons_of_mem _ hp)).weaken.bind
        fun ps => .pure fun m hm => .inl ?_
    simpa [propertyMentions] using hm

theorem accounts_additionalType (conversions : Conversions) (additional : Option Schema)
    (h : ∀ a ∈ additional, a.RefersOnlyTo names) :
    Accounts names [] (additionalType conversions additional) optionMentions := by
  match additional with
  | none => exact .pure (by simp [optionMentions])
  | some s =>
    rw [additionalType]
    split
    · exact .pure (by simp [optionMentions])
    · refine (accounts_typeOf conversions s (h s rfl)).bind fun t => .pure fun m hm => .inl ?_
      simpa [optionMentions] using hm

end

end OpenApiTypes.Types
