/-
Schemas that are read again from what is written of them.

* `Spec.Schema.NoNull`: a schema without null where null would read as nothing; every schema that is
  read is one (`Spec.Schema.noNull_of_ofMembers?`);
* `Spec.Bounds.HasFields.of_get?`, `Spec.Annotations.HasFields.of_get?`: constraints and annotations
  are read again from among the members of a schema;
* `Spec.Schema.ofMembers?_toMembers`: a schema without such a null is read again if its parts are;
* `Spec.Position.exists_ofJson?_iff`: where a schema is expected, exactly what has no such null at
  any depth is read from some value;
* `Spec.Position.roundTrips`: whatever is read there is read again from what is written of it.
-/
import OpenApiTypes.Proofs.Spec.Fields
import OpenApiTypes.Spec.SchemaWriter

namespace OpenApiTypes.Spec

open Json (memberIf optional?_of_get? optional?_string optional?_nat optional?_float optional?_any
  defaulted?_of_get? defaulted?_list defaulted?_entries defaulted?_flag defaulted?_values)

/-! ### Values without schemas -/

lemma Kind.ofName_name (k : Kind) : ofName k.name = k := by
  cases k <;> decide

lemma Types.ofJson?_toJson (t : Types) : ofJson? t.toJson = some t := by
  cases t with
  | single kind => simp [toJson, ofJson?, Json.variant?, Kind.ofName_name]
  | several kinds =>
    have hlist : Json.list? (Json.variant? (some ∘ Kind.ofName))
        (.arr (kinds.map fun kind => .str kind.name)) = some kinds :=
      Json.list?_map fun kind _ => by simp [Json.variant?, Kind.ofName_name]
    simpa [toJson, ofJson?, Json.variant?, Json.strings, Function.comp_def] using hlist

lemma Types.optional?_written {written : Entries String Json} {name : String} {o : Option Types}
    (hget : written.get? name = o.map toJson) : Json.optional? written name ofJson? = some o :=
  optional?_of_get? hget fun t _ => ⟨t.ofJson?_toJson, by cases t <;> nofun⟩

lemma requiredNames?_map (names : List String) :
    requiredNames? (.arr (names.map .str)) = some names := by
  rw [requiredNames?]
  · exact Json.list?_map fun _ _ => rfl
  · nofun

lemma defaulted?_required {written : Entries String Json} {names : List String}
    (hget : written.get? "required"
      = if names.map Json.str = [] then none else some (.arr (names.map .str))) :
    Json.defaulted? written "required" [] requiredNames? = some names := by
  refine defaulted?_of_get? ?_ (requiredNames?_map names)
  cases names <;> simp [hget]

lemma ExclusiveBound.ofJson?_toJson (b : ExclusiveBound) : ofJson? b.toJson = some b := by
  cases b <;> rfl

lemma ExclusiveBound.optional?_written {written : Entries String Json} {name : String}
    {o : Option ExclusiveBound} (hget : written.get? name = o.map toJson) :
    Json.optional? written name ofJson? = some o :=
  optional?_of_get? hget fun b _ => ⟨b.ofJson?_toJson, by cases b <;> nofun⟩

@[simp]
lemma listMember_eq (name : String) (items : List Json) :
    listMember name items = memberIf name (if items = [] then none else some (.arr items)) := by
  cases items <;> rfl

@[simp]
lemma entriesMember_eq (name : String) (members : Entries String Json) :
    entriesMember name members
      = memberIf name (if members = [] then none else some (.obj members)) := by
  cases members <;> rfl

/-! ### Writers of several schemas -/

namespace Position

lemma listToItems_eq (ps : List (Position Schema)) : listToItems ps = ps.map toJson := by
  induction ps with
  | nil => rfl
  | cons p ps ih => simp [listToItems, ih]

lemma entriesToMembers_eq (ps : Entries String (Position Schema)) :
    entriesToMembers ps = ps.mapValues toJson := by
  induction ps with
  | nil => rfl
  | cons q ps ih =>
    obtain ⟨name, p⟩ := q
    simpa [entriesToMembers, Entries.mapValues] using ih

lemma optionToJson_eq (o : Option (Position Schema)) : optionToJson o = o.map toJson := by
  cases o <;> simp [optionToJson]

lemma toJson_ne_null (p : Position Schema) : p.toJson ≠ .null := by
  cases p <;> simp [toJson, refToJson]

variable {written : Entries String Json} {name : String}

lemma optional?_written {o : Option (Position Schema)} (hget : written.get? name = o.map toJson)
    (h : ∀ p ∈ o, ofJson? p.toJson = some p) : Json.optional? written name ofJson? = some o :=
  optional?_of_get? hget fun p hp => ⟨h p hp, p.toJson_ne_null⟩

lemma defaulted?_nullable? {o : Option (Position Schema)} (hget : written.get? name = o.map toJson)
    (h : ∀ p ∈ o, ofJson? p.toJson = some p) :
    Json.defaulted? written name none nullable? = some o := by
  rw [nullable?_eq]
  exact optional?_written hget h

lemma defaulted?_list? {ps : List (Position Schema)}
    (hget : written.get? name = if ps.map toJson = [] then none else some (.arr (ps.map toJson)))
    (h : ∀ p ∈ ps, ofJson? p.toJson = some p) :
    Json.defaulted? written name [] list? = some ps := by
  rw [list?_eq]
  exact defaulted?_list hget h

lemma defaulted?_entries? {e : Entries String (Position Schema)}
    (hget : written.get? name
      = if e.mapValues toJson = [] then none else some (.obj (e.mapValues toJson)))
    (h : ∀ q ∈ e, ofJson? q.2.toJson = some q.2) :
    Json.defaulted? written name [] entries? = some e := by
  rw [entries?_eq]
  exact defaulted?_entries hget h

end Position

/-! ### Null -/

/-- No null where null reads as nothing. -/
structure Annotations.NoNull (a : Annotations) : Prop where
  defaultValue : a.defaultValue ≠ some .null
  example_ : a.example_ ≠ some .null

/-- No null where null reads as nothing. -/
structure Schema.NoNull (s : Schema) : Prop where
  constValue : s.constValue ≠ some .null
  annotations : s.annotations.NoNull

lemma Schema.noNull_empty : NoNull {} := ⟨nofun, nofun, nofun⟩

lemma Annotations.NoNull.of_take? {a a' : Annotations} {key : String} {v : Json} (ha : a.NoNull)
    (ha' : a.take? key v = some a') : a'.NoNull := by
  unfold take? at ha'
  split at ha'
  case h_8 => exact Option.some.inj ha' ▸ ha
  all_goals
    obtain ⟨read, hread, ha'⟩ := Option.bind_eq_some_iff.mp ha'
    obtain rfl := Option.some.inj ha'
  case h_3 => exact { ha with defaultValue := Json.ne_null_of_nullable? hread }
  case h_4 => exact { ha with example_ := Json.ne_null_of_nullable? hread }
  all_goals exact { ha with }

lemma Schema.NoNull.of_takeFlat? {s s' : Schema} {key : String} {v : Json} (hs : s.NoNull)
    (hs' : s.takeFlat? key v = some s') : s'.NoNull := by
  unfold takeFlat? at hs'
  split at hs'
  case h_7 =>
    obtain ⟨bounds, -, hs'⟩ := Option.bind_eq_some_iff.mp hs'
    obtain ⟨annotations, hannotations, hs'⟩ := Option.bind_eq_some_iff.mp hs'
    obtain rfl := Option.some.inj hs'
    exact { hs with annotations := hs.annotations.of_take? hannotations }
  all_goals
    obtain ⟨read, hread, hs'⟩ := Option.bind_eq_some_iff.mp hs'
    obtain rfl := Option.some.inj hs'
  case h_6 => exact { hs with constValue := Json.ne_null_of_nullable? hread }
  all_goals exact { hs with }

lemma Schema.NoNull.of_take? {s s' : Schema} {key : String} {v : Json} (hs : s.NoNull)
    (hs' : s.take? key v = some s') : s'.NoNull := by
  unfold take? at hs'
  split at hs'
  case h_8 => exact hs.of_takeFlat? hs'
  all_goals
    obtain ⟨read, -, hs'⟩ := Option.bind_eq_some_iff.mp hs'
    obtain rfl := Option.some.inj hs'
    exact { hs with }

/-- What is read has no such null. -/
lemma Schema.noNull_of_ofMembers? {members : Entries String Json} {s : Schema}
    (hs : ofMembers? {} members = some s) : s.NoNull :=
  of_ofMembers? (fun _ _ _ _ => NoNull.of_take?) noNull_empty hs

/-! ### Constraints and annotations -/

/-- The names of constraints, in the order in which they are written. -/
def Bounds.names : List String := ["minimum", "maximum", "exclusiveMinimum", "exclusiveMaximum",
  "minLength", "maxLength", "pattern", "minItems", "maxItems"]

/-- The names of annotations, in the order in which they are written. -/
def Annotations.names : List String := ["title", "description", "default", "example", "deprecated",
  "readOnly", "writeOnly"]

/-- Constraints have the fields that are written of them among the members of a schema. -/
lemma Bounds.HasFields.of_get? {written : Entries String Json} {b : Bounds}
    (h : ∀ name ∈ names, written.get? name = Entries.get? b.toMembers name) :
    HasFields {} written b := by
  have hget {name : String} (hname : name ∈ names) {value : Option Json}
      (hvalue : Entries.get? b.toMembers name = value) : written.get? name = value :=
    (h name hname).trans hvalue
  exact {
    minimum := optional?_float (hget (by decide) (by simp [toMembers]))
    maximum := optional?_float (hget (by decide) (by simp [toMembers]))
    exclusiveMinimum := ExclusiveBound.optional?_written (hget (by decide) (by simp [toMembers]))
    exclusiveMaximum := ExclusiveBound.optional?_written (hget (by decide) (by simp [toMembers]))
    minLength := optional?_nat (hget (by decide) (by simp [toMembers]))
    maxLength := optional?_nat (hget (by decide) (by simp [toMembers]))
    pattern := optional?_string (hget (by decide) (by simp [toMembers]))
    minItems := optional?_nat (hget (by decide) (by simp [toMembers]))
    maxItems := optional?_nat (hget (by decide) (by simp [toMembers])) }

/-- So do annotations that have no null where null reads as nothing. -/
lemma Annotations.HasFields.of_get? {written : Entries String Json} {a : Annotations}
    (h : ∀ name ∈ names, written.get? name = Entries.get? a.toMembers name) (hnull : a.NoNull) :
    HasFields {} written a := by
  have hget {name : String} (hname : name ∈ names) {value : Option Json}
      (hvalue : Entries.get? a.toMembers name = value) : written.get? name = value :=
    (h name hname).trans hvalue
  exact {
    title := optional?_string (hget (by decide) (by simp [toMembers]))
    description := optional?_string (hget (by decide) (by simp [toMembers]))
    defaultValue := optional?_any (hget (by decide) (by simp [toMembers])) hnull.defaultValue
    example_ := optional?_any (hget (by decide) (by simp [toMembers])) hnull.example_
    deprecated := defaulted?_flag (hget (by decide) (by simp [toMembers]))
    readOnly := defaulted?_flag (hget (by decide) (by simp [toMembers]))
    writeOnly := defaulted?_flag (hget (by decide) (by simp [toMembers])) }

/-! ### Schemas -/

namespace Schema

/-- A schema is written member by member. -/
lemma toMembers_eq (s : Schema) : s.toMembers
    = memberIf "type" (s.types.map Types.toJson)
      ++ (memberIf "format" (s.format.map .str)
      ++ (Json.flag "nullable" s.nullable
      ++ (entriesMember "properties" (Entries.mapValues Position.toJson s.properties)
      ++ (listMember "required" (s.required.map .str)
      ++ (memberIf "additionalProperties" (s.additionalProperties.map Position.toJson)
      ++ (memberIf "items" (s.items.map Position.toJson)
      ++ (listMember "prefixItems" (s.prefixItems.map Position.toJson)
      ++ (listMember "allOf" (s.allOf.map Position.toJson)
      ++ (listMember "oneOf" (s.oneOf.map Position.toJson)
      ++ (listMember "anyOf" (s.anyOf.map Position.toJson)
      ++ (listMember "enum" s.enumValues
      ++ (memberIf "const" s.constValue
      ++ (s.bounds.toMembers ++ s.annotations.toMembers))))))))))))) := by
  cases s
  simp only [toMembers, Position.listToItems_eq, Position.entriesToMembers_eq,
    Position.optionToJson_eq, List.append_assoc]

/-- The names of the fields of a schema, in the order in which they are written. -/
def names : List String := ["type", "format", "nullable", "properties", "required",
  "additionalProperties", "items", "prefixItems", "allOf", "oneOf", "anyOf", "enum", "const"]
  ++ (Bounds.names ++ Annotations.names)

lemma nodup_names : names.Nodup := by decide

lemma keys_toMembers_sublist (s : Schema) : (Entries.keys s.toMembers).Sublist names := by
  rw [toMembers_eq, ← List.append_nil s.annotations.toMembers]
  simp only [Bounds.toMembers, Annotations.toMembers, Json.flag_eq, listMember_eq, entriesMember_eq,
    List.append_assoc]
  repeat apply Json.keys_memberIf_append_sublist
  exact List.Sublist.slnil

/-- A schema without such a null has the fields that are written of it, if its parts are read
again. -/
lemma hasFields_toMembers {s : Schema}
    (hparts : s.Parts fun p => Position.ofJson? p.toJson = some p) (hnull : s.NoNull) :
    HasFields {} s.toMembers s := by
  have hbounds : Bounds.HasFields {} s.toMembers s.bounds :=
    .of_get? (by simp [Bounds.names, toMembers_eq, Annotations.toMembers])
  have hannotations : Annotations.HasFields {} s.toMembers s.annotations :=
    .of_get? (by simp [Annotations.names, toMembers_eq, Bounds.toMembers]) hnull.annotations
  rw [toMembers_eq, Bounds.toMembers, Annotations.toMembers] at hbounds hannotations ⊢
  exact {
    types := Types.optional?_written (by simp)
    format := optional?_string (by simp)
    nullable := defaulted?_flag (by simp)
    properties := Position.defaulted?_entries? (by simp) hparts.properties
    required := defaulted?_required (by simp)
    additionalProperties := Position.defaulted?_nullable? (by simp) hparts.additionalProperties
    items := Position.defaulted?_nullable? (by simp) hparts.items
    prefixItems := Position.defaulted?_list? (by simp) hparts.prefixItems
    allOf := Position.defaulted?_list? (by simp) hparts.allOf
    oneOf := Position.defaulted?_list? (by simp) hparts.oneOf
    anyOf := Position.defaulted?_list? (by simp) hparts.anyOf
    enumValues := defaulted?_values (by simp)
    constValue := optional?_any (by simp) hnull.constValue
    bounds := hbounds
    annotations := hannotations }

theorem ofMembers?_toMembers {s : Schema}
    (hparts : s.Parts fun p => Position.ofJson? p.toJson = some p) (hnull : s.NoNull) :
    ofMembers? {} s.toMembers = some s :=
  (ofMembers?_eq_some_iff (nodup_names.sublist s.keys_toMembers_sublist)).mpr
    (hasFields_toMembers hparts hnull)

end Schema

namespace Position

lemma get?_toMembers_ref (s : Schema) : Entries.get? s.toMembers "$ref" = none := by
  simp [Schema.toMembers_eq, Bounds.toMembers, Annotations.toMembers]

/-- No null where null reads as nothing, at any depth. -/
inductive Readable : Position Schema → Prop where
  | bool (b : Bool) : Readable (.bool b)
  | ref (pointer : String) : Readable (.ref pointer)
  | inline {s : Schema} (hnull : s.NoNull) (properties : ∀ q ∈ s.properties, Readable q.2)
      (additionalProperties : ∀ p ∈ s.additionalProperties, Readable p)
      (items : ∀ p ∈ s.items, Readable p) (prefixItems : ∀ p ∈ s.prefixItems, Readable p)
      (allOf : ∀ p ∈ s.allOf, Readable p) (oneOf : ∀ p ∈ s.oneOf, Readable p)
      (anyOf : ∀ p ∈ s.anyOf, Readable p) : Readable (.inline s)

lemma Readable.ofJson?_toJson {p : Position Schema} (h : p.Readable) :
    ofJson? p.toJson = some p := by
  induction h with
  | bool b => simp [toJson, ofJson?]
  | ref pointer => simp [toJson, refToJson, ofJson?]
  | @inline s hnull _ _ _ _ _ _ _ properties additionalProperties items prefixItems allOf oneOf
      anyOf =>
    have hread : Schema.ofMembers? {} s.toMembers = some s :=
      Schema.ofMembers?_toMembers
        ⟨properties, additionalProperties, items, prefixItems, allOf, oneOf, anyOf⟩ hnull
    rw [toJson, ofJson?, get?_toMembers_ref, hread, Option.map_some]

lemma readable_of_ofJson? {v : Json} {p : Position Schema} (hp : ofJson? v = some p) :
    p.Readable := by
  refine ofJson?_induction (motive := fun _ p => p.Readable) ?_ ?_ ?_ v p hp
  · exact fun _ pointer _ => .ref pointer
  · exact .bool
  · intro members s hs hparts
    have hreadable : s.Parts Readable := hparts.imp fun _ ⟨_, _, hp⟩ => hp
    exact .inline (Schema.noNull_of_ofMembers? hs) hreadable.properties
      hreadable.additionalProperties hreadable.items hreadable.prefixItems hreadable.allOf
      hreadable.oneOf hreadable.anyOf

/-- Exactly what has no such null is read from some value. -/
theorem exists_ofJson?_iff {p : Position Schema} : (∃ v, ofJson? v = some p) ↔ p.Readable :=
  ⟨fun ⟨_, hp⟩ => readable_of_ofJson? hp, fun h => ⟨p.toJson, h.ofJson?_toJson⟩⟩

/-- **What stands where a schema is expected is read again from what is written of it.** -/
theorem roundTrips : Json.RoundTrips ofJson? toJson :=
  fun _ _ hp => (readable_of_ofJson? hp).ofJson?_toJson

end Position

end OpenApiTypes.Spec
