/-
What the type of a schema promises of its values.

* `Types.PromisedAt`: the leaves that the type of a schema describes, by their paths in its values:
  positions of tuples, members without a property and all schemas of a union included;
* `Types.ArrivesAs`: the type of a leaf whose values arrive as dates or as long integers;
* `Types.exists_promisedAt`: wherever the type of a schema has such a type, it promises such a leaf.
-/
import OpenApiTypes.Proofs.TypeScript.TypePaths
import OpenApiTypes.Proofs.Types.Meaning

namespace OpenApiTypes.Types

open OpenApiTypes.Model
open OpenApiTypes.Output (Registry)
open OpenApiTypes.TypeScript

variable {api : Api} {catalog : Catalog} {conversions : Conversions} {r : Registry} {s : Schema}
  {t u : TypeExpr} {path : List Step} {n : Nat} {statements : List Stmt} {names : List String}

/-! ### Leaves by their paths -/

/-- The type of a schema promises the values of a leaf at a path. A type for members without a
property is widened to those of the properties, so it promises their leaves as well. -/
inductive PromisedAt (catalog : Catalog) : Schema → List Step → Schema → Prop where
  | leaf {s : Schema} (hpointer : s.pointer = none) : PromisedAt catalog s [] s
  | component {s t l : Schema} {name : String} {path : List Step}
      (hpointer : s.pointer = some (Pointer.schema name)) (hmem : (name, t) ∈ catalog)
      (h : PromisedAt catalog t path l) : PromisedAt catalog s path l
  | element {s t l : Schema} {rest : List Schema} {path : List Step} (index : Nat)
      (hpointer : s.pointer = none) (hshape : s.shape = some .array) (hitems : s.items = t :: rest)
      (h : PromisedAt catalog t path l) : PromisedAt catalog s (.element index :: path) l
  | position {s t l : Schema} {index : Nat} {path : List Step} (hpointer : s.pointer = none)
      (hshape : s.shape = some .tuple) (hitem : s.items[index]? = some t)
      (h : PromisedAt catalog t path l) : PromisedAt catalog s (.element index :: path) l
  | property {s l : Schema} {property : String × Schema} {path : List Step}
      (hpointer : s.pointer = none) (hshape : s.shape = some .object)
      (hproperty : property ∈ s.properties) (h : PromisedAt catalog property.2 path l) :
      PromisedAt catalog s (.member property.1 :: path) l
  | other {s t l : Schema} {name : String} {path : List Step} (hpointer : s.pointer = none)
      (hshape : s.shape = some .object) (hother : name ∉ s.properties.map Prod.fst)
      (hadditional : s.additionalProperties = some t) (h : PromisedAt catalog t path l) :
      PromisedAt catalog s (.member name :: path) l
  | widened {s l : Schema} {name : String} {property : String × Schema} {path : List Step}
      (hpointer : s.pointer = none) (hshape : s.shape = some .object)
      (hother : name ∉ s.properties.map Prod.fst) (hsome : s.additionalProperties.isSome)
      (hproperty : property ∈ s.properties) (h : PromisedAt catalog property.2 path l) :
      PromisedAt catalog s (.member name :: path) l
  | item {s t l : Schema} {path : List Step} (hpointer : s.pointer = none)
      (hshape : s.shape = none ∨ s.shape = some .enum) (hitem : t ∈ s.items)
      (h : PromisedAt catalog t path l) : PromisedAt catalog s path l

/-- The type of a leaf whose values arrive as objects of their own. -/
def ArrivesAs (conversions : Conversions) (l : Schema) (u : TypeExpr) : Prop :=
  u = named "Date" ∧ conversions.dates = true ∧ l.shape = some .string
      ∧ (l.facets.format = some "date" ∨ l.facets.format = some "date-time")
    ∨ u = .keyword .bigint ∧ conversions.bigint = true ∧ l.shape = some .integer
      ∧ l.facets.format = some "int64"

/-! ### Types of several schemas -/

section

variable {items : List Schema} {types : List TypeExpr} (hlength : types.length = items.length)
include hlength

/-- A type at a position is that of the schema at the position. -/
lemma exists_mem_zip_of_getElem? {index : Nat} (hget : types[index]? = some t) :
    ∃ item, items[index]? = some item ∧ (item, t) ∈ items.zip types := by
  obtain ⟨hlt, rfl⟩ := List.getElem?_eq_some_iff.mp hget
  have hitem : index < items.length := hlength ▸ hlt
  have hzip : index < (items.zip types).length := by rw [List.length_zip]; omega
  exact ⟨items[index], List.getElem?_eq_getElem hitem,
    List.mem_iff_getElem.mpr ⟨index, hzip, by simp⟩⟩

/-- Every type is that of a schema. -/
lemma exists_mem_zip_of_mem (ht : t ∈ types) :
    ∃ item ∈ items, (item, t) ∈ items.zip types := by
  obtain ⟨index, hget⟩ := List.mem_iff_getElem?.mp ht
  obtain ⟨item, hitem, hzip⟩ := exists_mem_zip_of_getElem? hlength hget
  exact ⟨item, List.mem_of_getElem? hitem, hzip⟩

end

/-! ### Types without parts -/

/-- A constant does not arrive as an object of its own. -/
lemma not_typeAt_constantType {v : Json} (hu : IsRevived u) :
    ¬ TypeAt statements n (constantType v) path u := by
  intro h
  cases v <;> cases h <;> simp [IsRevived, named, constantType] at hu

/-- Nor does the member of an enumeration that has a constant. -/
lemma not_typeAt_enumType {constant : String} {s : Schema} (hu : IsRevived u) :
    ¬ TypeAt statements n (enumType constant s) path u := by
  intro h
  obtain ⟨t, ht, h⟩ := h.of_unionOf hu
  rcases List.mem_cons.mp ht with rfl | ht
  · cases h
    simp [IsRevived, named] at hu
  · split at ht
    · obtain rfl := List.mem_singleton.mp ht
      exact TypeAt.not_keyword hu (by decide) h
    · simp at ht

/-- Integers arrive as objects of their own only if they are long. -/
lemma eq_bigint_of_typeAt {format : Option String} (hu : IsRevived u)
    (h : TypeAt statements n (integerType conversions format) path u) :
    path = [] ∧ u = .keyword .bigint ∧ conversions.bigint = true ∧ format = some "int64" := by
  unfold integerType at h
  split at h
  · rename_i hformat
    obtain ⟨rfl, rfl⟩ := h.eq_keyword
    simpa using hformat
  · exact absurd h (TypeAt.not_keyword hu (by decide))

/-- A type for members without a property has the types of the properties and one of its own. -/
lemma of_indexType {properties : List (Property TypeExpr)} {additional : TypeExpr}
    (hu : IsRevived u) (h : TypeAt statements n (indexType properties additional) path u) :
    TypeAt statements n additional path u
      ∨ ∃ property ∈ properties, TypeAt statements n property.type path u := by
  unfold indexType at h
  split at h
  · exact .inl h
  · obtain ⟨t, ht, hmember⟩ := h.of_unionOf hu
    simp only [List.mem_append, List.mem_map, List.mem_singleton] at ht
    rcases ht with (⟨property, hproperty, rfl⟩ | ht) | rfl
    · exact .inr ⟨property, hproperty, hmember⟩
    · split at ht
      · obtain rfl := List.mem_singleton.mp ht
        exact absurd hmember (TypeAt.not_keyword hu (by decide))
      · simp at ht
    · exact .inl hmember

section

variable (hr : r.Distinct .type fileId) (hexplained : Explained api conversions r statements)
include hr hexplained

/-- Under the name of a built-in type there is nothing but the type. -/
lemma eq_of_typeAt_named {name : String} (hname : name ∈ builtinTypes)
    (h : TypeAt statements n (named name) path u) : path = [] ∧ u = named name := by
  generalize ht : named name = t at h
  cases h with
  | here => exact ⟨rfl, rfl⟩
  | declared hmem =>
    obtain rfl : name = _ := by simpa [named] using ht
    obtain ⟨d, hentry, -⟩ := hexplained hmem
    have hreserved : ∀ name ∈ builtinTypes, name ∈ Registry.reserved := by decide +kernel
    exact absurd (hreserved name hname) (hr.unreserved hentry)
  | _ => simp [named] at ht

/-- Strings arrive as objects of their own only if they are dates. -/
lemma eq_date_of_typeAt {format : Option String} (hu : IsRevived u)
    (h : TypeAt statements n (stringType conversions format) path u) :
    path = [] ∧ u = named "Date" ∧ conversions.dates = true
      ∧ (format = some "date" ∨ format = some "date-time") := by
  have hkeyword : ¬ TypeAt statements n (.keyword .string) path u :=
    TypeAt.not_keyword hu (by decide)
  unfold stringType at h
  split at h
  · obtain ⟨t, ht, h⟩ := h.of_unionOf hu
    simp only [List.mem_cons, List.not_mem_nil, or_false] at ht
    rcases ht with rfl | rfl
    · obtain ⟨-, rfl⟩ := eq_of_typeAt_named hr hexplained (by decide) h
      simp [IsRevived, named] at hu
    · obtain ⟨-, rfl⟩ := eq_of_typeAt_named hr hexplained (by decide) h
      simp [IsRevived, named] at hu
  · split at h
    · obtain ⟨rfl, rfl⟩ := eq_of_typeAt_named hr hexplained (by decide) h
      exact ⟨rfl, rfl, ‹_›, .inl rfl⟩
    · exact absurd h hkeyword
  · split at h
    · obtain ⟨rfl, rfl⟩ := eq_of_typeAt_named hr hexplained (by decide) h
      exact ⟨rfl, rfl, ‹_›, .inr rfl⟩
    · exact absurd h hkeyword
  · exact absurd h hkeyword

/-! ### Types of schemas -/

/-- Under a name that was given to a reference, there is the type that it stands for. -/
lemma exists_stands {name pointer : String} (hu : IsRevived u)
    (hentry : r.status? pointer .type fileId = some (.active name))
    (h : TypeAt statements n (named name) path u) : ∃ m t d, m < n ∧ d.pointer = pointer
      ∧ Stands api conversions r d t ∧ TypeAt statements m t path u := by
  have hname : name ≠ "Date" := by
    rintro rfl
    exact hr.unreserved hentry (by decide +kernel)
  obtain ⟨m, exported, t, comment, rfl, hmem, h⟩ := h.of_named hu hname
  obtain ⟨d, hd, hstands⟩ := hexplained hmem
  exact ⟨m, t, d, by omega, hr.pointer_eq hd hentry rfl, hstands, h⟩

variable (hrefer : ∀ component ∈ api.catalog, component.2.RefersOnlyTo names) (hu : IsRevived u)
include hrefer hu

/-- Wherever the type of a schema says that values arrive as objects of their own, it promises a
leaf of which they do. -/
theorem exists_promisedAt (hs : s.RefersOnlyTo names) (htyped : Typed conversions r s t)
    (h : TypeAt statements n t path u) :
    ∃ l, PromisedAt api.catalog s path l ∧ ArrivesAs conversions l u := by
  induction n using Nat.strong_induction_on generalizing s t path with
  | _ n ih =>
    -- Every name on the way leaves fewer of them; between two names, schemas become smaller.
    induction htyped generalizing path with
    | reference hpointer hentry =>
      obtain ⟨name, -, rfl⟩ := hs _ .self _ hpointer
      obtain ⟨m, t, d, hm, hd, hstands, h⟩ := exists_stands hr hexplained hu hentry h
      obtain rfl : d = .schema name := Declared.pointer_injective hd
      cases hstands with
      | component hmem htyped =>
        obtain ⟨l, hl, hlu⟩ := ih m hm (hrefer _ hmem) htyped h
        exact ⟨l, .component hpointer hmem hl, hlu⟩
      | enumeration => exact absurd h (not_typeAt_enumType hu)
    | withdrawn => exact absurd h (TypeAt.not_keyword hu (by decide))
    | constant => exact absurd h (not_typeAt_constantType hu)
    | noElement =>
      cases h with
      | here => simp [IsRevived, named] at hu
      | element _ h => exact absurd h (TypeAt.not_keyword hu (by decide))
    | array hopen hshape hitems _ ih' =>
      cases h with
      | here => simp [IsRevived, named] at hu
      | element index h =>
        obtain ⟨l, hl, hlu⟩ := ih' (hs.of_mem_items (by simp [hitems])) h
        exact ⟨l, .element index hopen.pointer hshape hitems hl, hlu⟩
    | tuple hopen hshape hlength _ ih' =>
      cases h with
      | here => simp [IsRevived, named] at hu
      | @position _ index _ t _ _ hget h =>
        obtain ⟨item, hitem, hzip⟩ := exists_mem_zip_of_getElem? hlength hget
        obtain ⟨l, hl, hlu⟩ := ih' _ hzip (hs.of_mem_items (List.mem_of_getElem? hitem)) h
        exact ⟨l, .position hopen.pointer hshape hitem hl, hlu⟩
    | enum hopen hshape hlength _ ih' =>
      obtain ⟨t, ht, h⟩ := h.of_unionOf hu
      obtain ⟨item, hitem, hzip⟩ := exists_mem_zip_of_mem hlength ht
      obtain ⟨l, hl, hlu⟩ := ih' _ hzip (hs.of_mem_items hitem) h
      exact ⟨l, .item hopen.pointer (.inr hshape) hitem hl, hlu⟩
    | @object s types additional hopen hshape hlength _ hsome _ ih' ihrest =>
      have hproperty : ∀ x ∈ s.properties.zip types, x.1 ∈ s.properties :=
        fun x hx => (List.of_mem_zip hx).1
      generalize hindex : additional.map (indexType (membersOf s types)) = index at h
      cases h with
      | here => simp [IsRevived, named] at hu
      | member hmember h =>
        obtain ⟨x, hx, rfl⟩ := List.mem_map.mp hmember
        obtain ⟨l, hl, hlu⟩ := ih' x hx (hs.of_mem_properties (hproperty x hx)) h
        exact ⟨l, .property hopen.pointer hshape (hproperty x hx) hl, hlu⟩
      | other hother h =>
        rw [map_name_membersOf hlength] at hother
        obtain ⟨rest, rfl, rfl⟩ := Option.map_eq_some_iff.mp hindex
        obtain ⟨t, ht⟩ := Option.isSome_iff_exists.mp (hsome rfl)
        rcases of_indexType hu h with h | ⟨p, hp, h⟩
        · obtain ⟨l, hl, hlu⟩ := ihrest t ht rest rfl (hs.of_additional ht) h
          exact ⟨l, .other hopen.pointer hshape hother ht hl, hlu⟩
        · obtain ⟨x, hx, rfl⟩ := List.mem_map.mp hp
          obtain ⟨l, hl, hlu⟩ := ih' x hx (hs.of_mem_properties (hproperty x hx)) h
          exact ⟨l, .widened hopen.pointer hshape hother (hsome rfl) (hproperty x hx) hl, hlu⟩
    | string hopen hshape =>
      obtain ⟨rfl, rfl, hdates, hformat⟩ := eq_date_of_typeAt hr hexplained hu h
      exact ⟨_, .leaf hopen.pointer, .inl ⟨rfl, hdates, hshape, hformat⟩⟩
    | integer hopen hshape =>
      obtain ⟨rfl, rfl, hbigint, hformat⟩ := eq_bigint_of_typeAt hu h
      exact ⟨_, .leaf hopen.pointer, .inr ⟨rfl, hbigint, hshape, hformat⟩⟩
    | keyword _ hkeyword => exact absurd h (TypeAt.not_keyword hu hkeyword)
    | all hopen hshape _ hlength _ ih' =>
      obtain ⟨t, ht, h⟩ := h.of_intersectionOf hu
      obtain ⟨item, hitem, hzip⟩ := exists_mem_zip_of_mem hlength ht
      obtain ⟨l, hl, hlu⟩ := ih' _ hzip (hs.of_mem_items hitem) h
      exact ⟨l, .item hopen.pointer (.inl hshape) hitem hl, hlu⟩
    | any hopen hshape _ hlength _ ih' =>
      obtain ⟨t, ht, h⟩ := h.of_unionOf hu
      obtain ⟨item, hitem, hzip⟩ := exists_mem_zip_of_mem hlength ht
      obtain ⟨l, hl, hlu⟩ := ih' _ hzip (hs.of_mem_items hitem) h
      exact ⟨l, .item hopen.pointer (.inl hshape) hitem hl, hlu⟩

/-- The same of the type of a response, under its name. -/
theorem exists_promisedAt_response {op : Operation} {name : String}
    (hids : (api.operations.map Operation.id).Nodup) (hop : op ∈ api.operations)
    (hschema : op.successes.schema? = some s) (hs : s.RefersOnlyTo names)
    (hentry : r.status? (operationReference op.id .response) .type fileId = some (.active name))
    (h : TypeAt statements n (named name) path u) :
    ∃ l, PromisedAt api.catalog s path l ∧ ArrivesAs conversions l u := by
  obtain ⟨m, t, d, -, hd, hstands, h⟩ := exists_stands hr hexplained hu hentry h
  obtain rfl : d = .operation op.id .response := Declared.pointer_injective hd
  generalize heq : Declared.operation op.id .response = d at hstands
  cases hstands with
  | component | enumeration | webhook => simp at heq
  | @response op' s' _ hop' hs' htyped =>
    obtain rfl : op = op' := List.inj_on_of_nodup_map hids hop hop' (by simpa using heq)
    obtain rfl : s' = s := Option.some.inj (hs'.symm.trans hschema)
    exact exists_promisedAt hr hexplained hrefer hu hs htyped h
  | operation htype => exact absurd (Declared.operation.inj heq).2.symm htype

end

end OpenApiTypes.Types
