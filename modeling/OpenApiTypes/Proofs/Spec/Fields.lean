/-
Schemas read field by field, and the schemas inside them.

* `Spec.Schema.HasFields`: a schema with the values of certain fields, whatever their order;
* `Spec.Schema.hasFields_cons`: one field more is one member taken up;
* `Spec.Schema.ofMembers?_eq_some_iff`: so what is read member by member has the values of its
  fields, if the keys are distinct;
* `Spec.Schema.Parts`: a schema with something true of all that stands inside it where a schema is
  expected;
* `Spec.Schema.of_ofMembers?`: what taking up one member keeps holds after all of them;
* `Spec.Schema.parts_of_ofMembers?`: what holds of all that is read from the members holds of the
  parts of the schema;
* `Spec.Position.ofJson?_induction`: induction on what is read, from the parts to the whole.
-/
import OpenApiTypes.Proofs.Json.Record
import OpenApiTypes.Spec.SchemaReader
import Mathlib.Tactic.MkIffOfInductiveProp

namespace OpenApiTypes.Spec

open Json (defaulted? defaulted?_cons defaulted?_of_notMem nullable? float? nat? string? bool?
  any? list?)

/-! ### Field by field -/

/-- Constraints with the values of their fields; those without a field are as they were. -/
@[mk_iff]
structure Bounds.HasFields (b : Bounds) (fields : Entries String Json) (b' : Bounds) : Prop where
  minimum : defaulted? fields "minimum" b.minimum (nullable? float?) = some b'.minimum
  maximum : defaulted? fields "maximum" b.maximum (nullable? float?) = some b'.maximum
  exclusiveMinimum : defaulted? fields "exclusiveMinimum" b.exclusiveMinimum
    (nullable? ExclusiveBound.ofJson?) = some b'.exclusiveMinimum
  exclusiveMaximum : defaulted? fields "exclusiveMaximum" b.exclusiveMaximum
    (nullable? ExclusiveBound.ofJson?) = some b'.exclusiveMaximum
  minLength : defaulted? fields "minLength" b.minLength (nullable? nat?) = some b'.minLength
  maxLength : defaulted? fields "maxLength" b.maxLength (nullable? nat?) = some b'.maxLength
  pattern : defaulted? fields "pattern" b.pattern (nullable? string?) = some b'.pattern
  minItems : defaulted? fields "minItems" b.minItems (nullable? nat?) = some b'.minItems
  maxItems : defaulted? fields "maxItems" b.maxItems (nullable? nat?) = some b'.maxItems

/-- Annotations with the values of their fields. -/
@[mk_iff]
structure Annotations.HasFields (a : Annotations) (fields : Entries String Json)
    (a' : Annotations) : Prop where
  title : defaulted? fields "title" a.title (nullable? string?) = some a'.title
  description :
    defaulted? fields "description" a.description (nullable? string?) = some a'.description
  defaultValue : defaulted? fields "default" a.defaultValue (nullable? any?) = some a'.defaultValue
  example_ : defaulted? fields "example" a.example_ (nullable? any?) = some a'.example_
  deprecated : defaulted? fields "deprecated" a.deprecated bool? = some a'.deprecated
  readOnly : defaulted? fields "readOnly" a.readOnly bool? = some a'.readOnly
  writeOnly : defaulted? fields "writeOnly" a.writeOnly bool? = some a'.writeOnly

/-- A schema with the values of its fields. -/
@[mk_iff]
structure Schema.HasFields (s : Schema) (fields : Entries String Json) (s' : Schema) : Prop where
  types : defaulted? fields "type" s.types (nullable? Types.ofJson?) = some s'.types
  format : defaulted? fields "format" s.format (nullable? string?) = some s'.format
  nullable : defaulted? fields "nullable" s.nullable bool? = some s'.nullable
  properties : defaulted? fields "properties" s.properties Position.entries? = some s'.properties
  required : defaulted? fields "required" s.required requiredNames? = some s'.required
  additionalProperties : defaulted? fields "additionalProperties" s.additionalProperties
    Position.nullable? = some s'.additionalProperties
  items : defaulted? fields "items" s.items Position.nullable? = some s'.items
  prefixItems : defaulted? fields "prefixItems" s.prefixItems Position.list? = some s'.prefixItems
  allOf : defaulted? fields "allOf" s.allOf Position.list? = some s'.allOf
  oneOf : defaulted? fields "oneOf" s.oneOf Position.list? = some s'.oneOf
  anyOf : defaulted? fields "anyOf" s.anyOf Position.list? = some s'.anyOf
  enumValues : defaulted? fields "enum" s.enumValues (list? any?) = some s'.enumValues
  constValue : defaulted? fields "const" s.constValue (nullable? any?) = some s'.constValue
  bounds : s.bounds.HasFields fields s'.bounds
  annotations : s.annotations.HasFields fields s'.annotations

variable {fields : Entries String Json} {key : String}

/-! ### Member by member -/

/-- A member is taken up first: what it says stays, as no other member has its key. -/
lemma Bounds.hasFields_cons {b b' : Bounds} (hkey : key ∉ fields.keys) {v : Json} :
    b.HasFields ((key, v) :: fields) b'
      ↔ ∃ next, b.take? key v = some next ∧ next.HasFields fields b' := by
  unfold take?
  split
  all_goals
    simp only [hasFields_iff, defaulted?_cons, defaulted?_of_notMem hkey, String.reduceEq,
      ↓reduceIte, ↓Json.bind_eq_some_iff, Option.some.injEq, exists_exists_and_eq_and, *]
  all_goals grind

lemma Annotations.hasFields_cons {a a' : Annotations} (hkey : key ∉ fields.keys) {v : Json} :
    a.HasFields ((key, v) :: fields) a'
      ↔ ∃ next, a.take? key v = some next ∧ next.HasFields fields a' := by
  unfold take?
  split
  all_goals
    simp only [hasFields_iff, defaulted?_cons, defaulted?_of_notMem hkey, String.reduceEq,
      ↓reduceIte, ↓Json.bind_eq_some_iff, Option.some.injEq, exists_exists_and_eq_and, *]
  all_goals grind

lemma Bounds.hasFields_cons_self {b b' : Bounds} (hkey : key ∉ fields.keys) {v : Json}
    (h : b.take? key v = some b) :
    b.HasFields ((key, v) :: fields) b' ↔ b.HasFields fields b' := by
  simp only [hasFields_cons hkey, h, Option.some.injEq, exists_eq_left']

lemma Annotations.hasFields_cons_self {a a' : Annotations} (hkey : key ∉ fields.keys) {v : Json}
    (h : a.take? key v = some a) :
    a.HasFields ((key, v) :: fields) a' ↔ a.HasFields fields a' := by
  simp only [hasFields_cons hkey, h, Option.some.injEq, exists_eq_left']

/-- A schema with one more member taken up. -/
def Schema.take? (s : Schema) (key : String) (v : Json) : Option Schema :=
  match key with
  | "properties" => do some { s with properties := ← Position.entries? v }
  | "additionalProperties" => do some { s with additionalProperties := ← Position.nullable? v }
  | "items" => do some { s with items := ← Position.nullable? v }
  | "prefixItems" => do some { s with prefixItems := ← Position.list? v }
  | "allOf" => do some { s with allOf := ← Position.list? v }
  | "oneOf" => do some { s with oneOf := ← Position.list? v }
  | "anyOf" => do some { s with anyOf := ← Position.list? v }
  | _ => s.takeFlat? key v

lemma Schema.ofMembers?_cons (s : Schema) (key : String) (v : Json)
    (members : Entries String Json) :
    s.ofMembers? ((key, v) :: members) = (s.take? key v).bind (·.ofMembers? members) := by
  unfold take?
  split
  case h_8 =>
    rw [ofMembers?] <;> try assumption
    cases s.takeFlat? key v <;> rfl
  all_goals rw [ofMembers?]
  all_goals
    first
    | cases Position.entries? v <;> rfl
    | cases Position.nullable? v <;> rfl
    | cases Position.list? v <;> rfl

lemma Schema.hasFields_cons {s s' : Schema} (hkey : key ∉ fields.keys) {v : Json} :
    s.HasFields ((key, v) :: fields) s'
      ↔ ∃ next, s.take? key v = some next ∧ next.HasFields fields s' := by
  unfold take?
  split
  case h_8 =>
    unfold takeFlat?
    split
    case h_7 =>
      simp only [hasFields_iff, defaulted?_cons, ↓Json.bind_eq_some_iff, Option.some.injEq,
        Bounds.hasFields_cons hkey, Annotations.hasFields_cons hkey, *]
      grind
    all_goals
      simp only [hasFields_iff, defaulted?_cons, defaulted?_of_notMem hkey, String.reduceEq,
        ↓reduceIte, ↓Json.bind_eq_some_iff, Option.some.injEq, exists_exists_and_eq_and,
        Bounds.hasFields_cons_self hkey rfl, Annotations.hasFields_cons_self hkey rfl, *]
    all_goals grind
  all_goals
    simp only [hasFields_iff, defaulted?_cons, defaulted?_of_notMem hkey, String.reduceEq,
      ↓reduceIte, ↓Json.bind_eq_some_iff, Option.some.injEq, exists_exists_and_eq_and,
      Bounds.hasFields_cons_self hkey rfl, Annotations.hasFields_cons_self hkey rfl, *]
  all_goals grind

lemma Bounds.hasFields_nil {b b' : Bounds} : b.HasFields [] b' ↔ b = b' := by
  cases b
  cases b'
  simp only [hasFields_iff, defaulted?, Entries.get?, List.lookup_nil, Option.some.injEq, mk.injEq]

lemma Annotations.hasFields_nil {a a' : Annotations} : a.HasFields [] a' ↔ a = a' := by
  cases a
  cases a'
  simp only [hasFields_iff, defaulted?, Entries.get?, List.lookup_nil, Option.some.injEq, mk.injEq]

lemma Schema.hasFields_nil {s s' : Schema} : s.HasFields [] s' ↔ s = s' := by
  cases s
  cases s'
  simp only [hasFields_iff, Bounds.hasFields_nil, Annotations.hasFields_nil, defaulted?,
    Entries.get?, List.lookup_nil, Option.some.injEq, mk.injEq]

/-- Members with distinct keys give a schema the values of its fields. -/
theorem Schema.ofMembers?_eq_some_iff {s s' : Schema} {members : Entries String Json}
    (h : members.keys.Nodup) : s.ofMembers? members = some s' ↔ s.HasFields members s' := by
  induction members generalizing s with
  | nil => rw [ofMembers?, hasFields_nil, Option.some.injEq]
  | cons m members ih =>
    obtain ⟨key, v⟩ := m
    obtain ⟨hkey, hmembers⟩ := List.nodup_cons.mp h
    rw [ofMembers?_cons, hasFields_cons hkey, Option.bind_eq_some_iff]
    simp only [ih hmembers]

/-! ### Readers of several schemas -/

namespace Position

lemma listOfItems?_eq (items : List Json) : listOfItems? items = items.mapM ofJson? := by
  induction items with
  | nil => simp [listOfItems?]
  | cons v items ih => simp [listOfItems?, ih]

lemma list?_eq : list? = Json.list? ofJson? := by
  funext v
  cases v <;> simp [list?, Json.list?, listOfItems?_eq]

lemma entriesOfMembers?_eq (members : Entries String Json) :
    entriesOfMembers? members = members.mapM (fun (key, v) => do some (key, ← ofJson? v)) := by
  induction members with
  | nil => simp [entriesOfMembers?]
  | cons m members ih =>
    obtain ⟨key, v⟩ := m
    simp [entriesOfMembers?, ih, Option.bind_assoc]

lemma entries?_eq : entries? = Json.entries? ofJson? := by
  funext v
  cases v <;> simp [entries?, Json.entries?, entriesOfMembers?_eq]

lemma nullable?_eq : nullable? = Json.nullable? ofJson? := by
  funext v
  cases v <;> simp [nullable?, Json.nullable?]

end Position

/-! ### Parts -/

namespace Schema

/-- Something holds of all that stands inside a schema where a schema is expected. -/
structure Parts (holds : Position Schema → Prop) (s : Schema) : Prop where
  properties : ∀ q ∈ s.properties, holds q.2
  additionalProperties : ∀ p ∈ s.additionalProperties, holds p
  items : ∀ p ∈ s.items, holds p
  prefixItems : ∀ p ∈ s.prefixItems, holds p
  allOf : ∀ p ∈ s.allOf, holds p
  oneOf : ∀ p ∈ s.oneOf, holds p
  anyOf : ∀ p ∈ s.anyOf, holds p

lemma parts_empty (holds : Position Schema → Prop) : Parts holds {} := by
  constructor <;> simp

lemma Parts.imp {holds holds' : Position Schema → Prop} {s : Schema} (hs : s.Parts holds)
    (h : ∀ p, holds p → holds' p) : s.Parts holds' where
  properties q hq := h q.2 (hs.properties q hq)
  additionalProperties p hp := h p (hs.additionalProperties p hp)
  items p hp := h p (hs.items p hp)
  prefixItems p hp := h p (hs.prefixItems p hp)
  allOf p hp := h p (hs.allOf p hp)
  oneOf p hp := h p (hs.oneOf p hp)
  anyOf p hp := h p (hs.anyOf p hp)

/-- A member without schemas leaves the schemas of a schema as they are. -/
lemma sameParts_of_takeFlat? {s s' : Schema} {key : String} {v : Json}
    (h : s.takeFlat? key v = some s') :
    s' = { s with
      types := s'.types, format := s'.format, nullable := s'.nullable, required := s'.required
      enumValues := s'.enumValues, constValue := s'.constValue, bounds := s'.bounds
      annotations := s'.annotations } := by
  unfold takeFlat? at h
  split at h
  all_goals
    simp only [↓Json.bind_eq_some_iff, Option.some.injEq] at h
  case h_7 =>
    obtain ⟨_, -, _, -, rfl⟩ := h
    rfl
  all_goals
    obtain ⟨_, -, rfl⟩ := h
    rfl

variable {holds : Position Schema → Prop} {members : Entries String Json}

lemma parts_of_take? {s s' : Schema} {key : String} {v : Json}
    (h : ∀ w, w.Within v → ∀ p, Position.ofJson? w = some p → holds p) (hs : s.Parts holds)
    (hs' : s.take? key v = some s') : s'.Parts holds := by
  unfold take? at hs'
  split at hs'
  case h_8 =>
    rw [sameParts_of_takeFlat? hs']
    exact { hs with }
  all_goals
    obtain ⟨read, hread, hs'⟩ := Option.bind_eq_some_iff.mp hs'
    obtain rfl := Option.some.inj hs'
  · rw [Position.entries?_eq] at hread
    exact { hs with properties := Json.forall_of_entries? hread h }
  · rw [Position.nullable?_eq] at hread
    exact { hs with additionalProperties := Json.forall_of_nullable? hread fun _ => h v .self }
  · rw [Position.nullable?_eq] at hread
    exact { hs with items := Json.forall_of_nullable? hread fun _ => h v .self }
  all_goals rw [Position.list?_eq] at hread
  · exact { hs with prefixItems := Json.forall_of_list? hread h }
  · exact { hs with allOf := Json.forall_of_list? hread h }
  · exact { hs with oneOf := Json.forall_of_list? hread h }
  · exact { hs with anyOf := Json.forall_of_list? hread h }

/-- What taking up one member keeps is kept. -/
lemma of_ofMembers? {P : Schema → Prop} {s s' : Schema}
    (hstep : ∀ m ∈ members, ∀ s s', P s → s.take? m.1 m.2 = some s' → P s')
    (hs : P s) (hs' : s.ofMembers? members = some s') : P s' := by
  induction members generalizing s with
  | nil =>
    obtain rfl : s = s' := by simpa [ofMembers?] using hs'
    exact hs
  | cons m members ih =>
    obtain ⟨key, v⟩ := m
    rw [ofMembers?_cons] at hs'
    obtain ⟨next, hnext, hs'⟩ := Option.bind_eq_some_iff.mp hs'
    have hhead := hstep (key, v) List.mem_cons_self s next hs hnext
    exact ih (fun m hm => hstep m (List.mem_cons_of_mem _ hm)) hhead hs'

lemma parts_of_ofMembers? {s : Schema}
    (h : ∀ m ∈ members, ∀ w, w.Within m.2 → ∀ p, Position.ofJson? w = some p → holds p)
    (hs : ofMembers? {} members = some s) : s.Parts holds :=
  of_ofMembers? (fun m hm _ _ => parts_of_take? (h m hm)) (parts_empty holds) hs

end Schema

/-- Induction on what is read: what holds of a schema if it holds of its parts, each read from a
part of the same value, holds of whatever is read. -/
theorem Position.ofJson?_induction {motive : Json → Position Schema → Prop}
    (ref : ∀ members pointer, Entries.get? members "$ref" = some (.str pointer) →
      motive (.obj members) (.ref pointer))
    (bool : ∀ b, motive (.bool b) (.bool b))
    (inline : ∀ members s, Schema.ofMembers? {} members = some s →
      s.Parts (fun p => ∃ w, w.Within (.obj members) ∧ motive w p) →
      motive (.obj members) (.inline s))
    (v : Json) (p : Position Schema) (hp : Position.ofJson? v = some p) : motive v p := by
  match v with
  | .bool b =>
    obtain rfl : Position.bool b = p := by simpa [ofJson?] using hp
    exact bool b
  | .obj members =>
    rw [ofJson?] at hp
    split at hp
    · rename_i pointer href
      obtain rfl := Option.some.inj hp
      exact ref members pointer href
    · obtain ⟨s, hs, rfl⟩ := Option.map_eq_some_iff.mp hp
      refine inline members s hs (Schema.parts_of_ofMembers? (fun m hm w hw q hq => ?_) hs)
      exact ⟨w, .member hm hw, ofJson?_induction ref bool inline w q hq⟩
  | .null | .number _ | .str _ | .arr _ => simp [ofJson?] at hp
termination_by sizeOf v
decreasing_by exact hw.sizeOf_lt_of_mem hm

end OpenApiTypes.Spec
