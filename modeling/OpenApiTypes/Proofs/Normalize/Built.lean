/-
How the schemas of a model are built.

* `Normalize.Built`: the schemas that are built from plain ones, constants, references to components
  and schemas that are built already;
* `Normalize.built_position`: whatever stands where a schema is expected becomes such a schema;
* `Normalize.built_of_mem_roots`: so does every schema that an entry of a model begins with.
-/
import OpenApiTypes.Normalize.Document
import OpenApiTypes.Proofs.Model.Parts

namespace OpenApiTypes

namespace Reported

variable {α β : Type}

instance : LawfulMonad Reported := LawfulMonad.mk' Reported
  (fun r => by cases r; simp [Functor.map])
  (fun a f => by simp [bind, pure])
  (fun r f g => by simp [bind, List.append_assoc])

@[simp] lemma value_fallback (a : α) (location message : String) :
    (fallback a location message).value = a := rfl

@[simp] lemma value_map (f : α → β) (r : Reported α) : (f <$> r).value = f r.value := rfl

@[simp] lemma value_mapM (f : α → Reported β) (l : List α) :
    (l.mapM f).value = l.map fun a => (f a).value := by
  induction l with
  | nil => simp
  | cons a l ih => simp [ih]

end Reported

namespace Normalize

open OpenApiTypes.Model

/-- The shapes of schemas that say nothing else. -/
def plainShapes : List Shape := [.unknown, .never, .null, .void]

/-- The shapes of values whose size is constrained. -/
def constrainedShapes : List Shape := [.string, .number, .integer, .boolean]

/-- Schemas that are built from plain ones, constants, references to components and schemas that are
built already. -/
inductive Built (scope : Scope) : Schema → Prop where
  | plain {shape : Shape} (h : shape ∈ plainShapes) : Built scope (.ofShape shape)
  | reference {name : String} (h : name ∈ scope.components) :
      Built scope (.reference (Pointer.schema name))
  | constant (v : Json) : Built scope (constant v)
  | enumeration {vs : List Json} (h : vs ≠ []) : Built scope (enumeration vs)
  | constrained {shape : Shape} (h : shape ∈ constrainedShapes) (s : Spec.Schema) :
      Built scope (constrain shape s)
  | object {properties : List (String × Schema)} {additional : Option Schema}
      (required : List String) (hproperties : ∀ p ∈ properties, Built scope p.2)
      (hadditional : ∀ s ∈ additional, Built scope s)
      (hopen : properties = [] → additional.isSome) :
      Built scope {
        shape := some .object, properties, required, additionalProperties := additional }
  | array {item : Schema} (minItems maxItems : Option Nat) (hitem : Built scope item) :
      Built scope { (Schema.ofShape .array).setItems [item] .or with facets := {
        minItems, maxItems } }
  | tuple {items : List Schema} (minItems maxItems : Option Nat)
      (hitems : ∀ i ∈ items, Built scope i) :
      Built scope { (Schema.ofShape .tuple).setItems items .and with facets := {
        minItems, maxItems } }
  | composed {items : List Schema} (operator : Operator) (hitems : ∀ i ∈ items, Built scope i) :
      Built scope (Schema.composed items operator)
  | documented {s : Schema} (a : Spec.Annotations) (hs : Built scope s) :
      Built scope (document a s)
  | orNull {s : Schema} (hs : Built scope s) : Built scope s.orNull

variable {scope : Scope}

/-! ### Schemas from converted members -/

/-- All converted members of a schema are built, and there are as many properties as it declares. -/
structure Members.Built (scope : Scope) (s : Spec.Schema) (m : Members) : Prop where
  properties : ∀ p ∈ (m.properties ()).value, Normalize.Built scope p.2
  no_properties : (m.properties ()).value = [] → s.properties = []
  additionalProperties : ∀ t ∈ (m.additionalProperties ()).value, Normalize.Built scope t
  items : ∀ t ∈ (m.items ()).value, Normalize.Built scope t
  prefixItems : ∀ t ∈ (m.prefixItems ()).value, Normalize.Built scope t
  allOf : ∀ t ∈ (m.allOf ()).value, Normalize.Built scope t
  oneOf : ∀ t ∈ (m.oneOf ()).value, Normalize.Built scope t
  anyOf : ∀ t ∈ (m.anyOf ()).value, Normalize.Built scope t

lemma built_unknown : Built scope (.ofShape .unknown) := .plain (by decide)

section

variable {s : Spec.Schema} {m : Members} (hm : m.Built scope s) (location : String)

include hm

lemma built_object : Built scope (object s m).value := by
  refine .object s.required hm.properties (fun t ht => ?_) fun hnone => ?_
  · cases hadditional : (m.additionalProperties ()).value with
    | some additional =>
      rw [hadditional] at ht
      obtain rfl : additional = t := Option.some.inj ht
      exact hm.additionalProperties _ hadditional
    | none =>
      rw [hadditional] at ht
      simp only [override] at ht
      split at ht
      · obtain rfl := Option.some.inj ht
        exact built_unknown
      · simp at ht
  · rw [hm.no_properties hnone]
    cases (m.additionalProperties ()).value <;> rfl

lemma built_array : Built scope (array s m).value := by
  unfold array
  split
  · refine .array s.bounds.minItems s.bounds.maxItems ?_
    cases hitem : (m.items ()).value with
    | none => exact built_unknown
    | some t => exact hm.items t hitem
  · exact .tuple s.bounds.minItems s.bounds.maxItems hm.prefixItems

lemma built_ofKind (kind : Spec.Kind) : Built scope (ofKind s location m kind).value := by
  cases kind with
  | array => exact built_array hm
  | object => exact built_object hm
  | null => exact .plain (by decide)
  | unknown => exact built_unknown
  | string | number | integer | boolean => exact .constrained (by decide) s

lemma built_typed : Built scope (typed s location m).value := by
  unfold typed
  split
  · exact built_ofKind hm location _
  · refine .composed .or fun i hi => ?_
    rw [Reported.value_mapM] at hi
    obtain ⟨kind, -, rfl⟩ := List.mem_map.mp hi
    exact built_ofKind hm location kind
  · split
    · exact built_object hm
    split
    · exact built_array hm
    · exact built_unknown

lemma built_ownStructure : ∀ t ∈ (ownStructure s m).value, Built scope t := by
  intro t ht
  unfold ownStructure at ht
  split at ht
  · simp at ht
  · obtain rfl : t = (object s m).value := by simpa using ht
    exact built_object hm

lemma built_body : Built scope (body s location m).value := by
  unfold body
  split
  · exact .constant _
  split
  · exact .enumeration (by simpa using ‹(!s.enumValues.isEmpty) = true›)
  split
  · refine .composed .and fun i hi => ?_
    rcases List.mem_append.mp hi with hi | hi
    · exact hm.allOf i hi
    · exact built_ownStructure hm i hi
  split
  · have hunion : ∀ variants : List Schema, (∀ i ∈ variants, Built scope i) →
        Built scope (Schema.composed (Schema.composed variants .or :: (ownStructure s m).value)
          .and) := by
      intro variants h
      refine .composed .and fun i hi => ?_
      rcases List.mem_cons.mp hi with rfl | hi
      · exact .composed .or h
      · exact built_ownStructure hm i hi
    split
    · exact hunion _ hm.anyOf
    · exact hunion _ hm.oneOf
  · exact built_typed hm location

/-- A schema is built if its members are. -/
lemma built_assemble : Built scope (assemble s location m).value := by
  have h : Built scope (document s.annotations (body s location m).value) :=
    .documented _ (built_body hm location)
  simp only [assemble, Reported.value_bind, Reported.value_pure]
  split
  · exact .orNull h
  · exact h

end

/-! ### Schemas -/

/-- The converted members of a schema. -/
def membersOf (scope : Scope) (inlining : Inlining) (s : Spec.Schema) (location : String) :
    Members where
  properties := fun _ => properties scope inlining s.properties (location ++ "/properties/")
  additionalProperties := fun _ =>
    optional scope inlining s.additionalProperties (location ++ "/additionalProperties")
  items := fun _ => optional scope inlining s.items (location ++ "/items")
  prefixItems := fun _ => positions scope inlining s.prefixItems (location ++ "/prefixItems/") 0
  allOf := fun _ => positions scope inlining s.allOf (location ++ "/allOf/") 0
  oneOf := fun _ => positions scope inlining s.oneOf (location ++ "/oneOf/") 0
  anyOf := fun _ => positions scope inlining s.anyOf (location ++ "/anyOf/") 0

lemma position_inline (scope : Scope) (inlining : Inlining) (s : Spec.Schema)
    (location : String) :
    position scope inlining (.inline s) location
      = assemble s location (membersOf scope inlining s location) := by
  rw [position]
  rfl

/-- A reference to a component of the document stays one. -/
lemma position_ref {scope : Scope} {pointer name : String}
    (hname : Pointer.schemaName? pointer = some name)
    (hmem : scope.components.contains name = true) (inlining : Inlining) (location : String) :
    position scope inlining (.ref pointer) location
      = ⟨.reference (Pointer.schema name), []⟩ := by
  rw [position, hname]
  exact if_pos hmem

/-- No property is lost. -/
lemma eq_nil_of_properties (scope : Scope) (inlining : Inlining)
    (ps : List (String × Spec.Position Spec.Schema)) (location : String)
    (h : (properties scope inlining ps location).value = []) : ps = [] := by
  cases ps with
  | nil => rfl
  | cons p rest =>
    obtain ⟨name, p⟩ := p
    simp [properties] at h

mutual

/-- Whatever stands where a schema is expected becomes a schema that is built: a pointer to a
component stays only if the component is there, and what any other pointer leads to is converted in
its place. -/
theorem built_position (scope : Scope) (inlining : Inlining) (p : Spec.Position Spec.Schema)
    (location : String) : Built scope (position scope inlining p location).value := by
  match p with
  | .bool true => rw [position]; exact built_unknown
  | .bool false => rw [position]; exact .plain (by decide)
  | .ref pointer =>
    rw [position]
    split
    · split
      · exact .reference (List.contains_iff_mem.mp ‹_›)
      · exact built_unknown
    split
    · split
      · exact built_position scope (inlining.enter pointer) _ pointer
      · exact built_unknown
    · exact built_unknown
  | .inline s =>
    rw [position]
    exact built_assemble
      { properties := built_properties scope inlining s.properties _
        no_properties := eq_nil_of_properties scope inlining s.properties _
        additionalProperties := built_optional scope inlining s.additionalProperties _
        items := built_optional scope inlining s.items _
        prefixItems := built_positions scope inlining s.prefixItems _ 0
        allOf := built_positions scope inlining s.allOf _ 0
        oneOf := built_positions scope inlining s.oneOf _ 0
        anyOf := built_positions scope inlining s.anyOf _ 0 } location
termination_by (inlining.remaining.length, sizeOf p)
decreasing_by
  · exact Prod.Lex.left _ _ (Reference.length_without_lt ‹_›)
  all_goals
    refine Prod.Lex.right _ ?_
    simp only [Spec.Position.inline.sizeOf_spec]
  · have := sizeOf_properties_lt s; omega
  · have := sizeOf_additionalProperties_lt s; omega
  · have := sizeOf_items_lt s; omega
  · have := sizeOf_prefixItems_lt s; omega
  · have := sizeOf_allOf_lt s; omega
  · have := sizeOf_oneOf_lt s; omega
  · have := sizeOf_anyOf_lt s; omega

theorem built_positions (scope : Scope) (inlining : Inlining)
    (ps : List (Spec.Position Spec.Schema)) (location : String) (index : Nat) :
    ∀ s ∈ (positions scope inlining ps location index).value, Built scope s := by
  match ps with
  | [] => simp [positions]
  | p :: rest =>
    have hp := built_position scope inlining p (location ++ toString index)
    have hrest := built_positions scope inlining rest location (index + 1)
    rw [positions]
    simpa using ⟨hp, hrest⟩
termination_by (inlining.remaining.length, sizeOf ps)

theorem built_properties (scope : Scope) (inlining : Inlining)
    (ps : List (String × Spec.Position Spec.Schema)) (location : String) :
    ∀ q ∈ (properties scope inlining ps location).value, Built scope q.2 := by
  match ps with
  | [] => simp [properties]
  | (name, p) :: rest =>
    have hp := built_position scope inlining p (location ++ Pointer.escape name)
    have hrest := built_properties scope inlining rest location
    rw [properties]
    simpa using ⟨hp, fun other s hs => hrest (other, s) hs⟩
termination_by (inlining.remaining.length, sizeOf ps)

theorem built_optional (scope : Scope) (inlining : Inlining)
    (p : Option (Spec.Position Spec.Schema)) (location : String) :
    ∀ s ∈ (optional scope inlining p location).value, Built scope s := by
  match p with
  | none => simp [optional]
  | some p =>
    have hp := built_position scope inlining p location
    rw [optional]
    simpa using hp
termination_by (inlining.remaining.length, sizeOf p)

end

/-! ### Operations -/

section

variable (setting : Setting)

lemma built_schema (p : Spec.Position Spec.Schema) (location : String) :
    Built setting.scope (setting.schema p location).value :=
  built_position setting.scope _ p location

lemma built_parameter (p : Spec.Parameter) (location : String) :
    Built setting.scope (parameter setting p location).value.schema := by
  have h : Built setting.scope (parameterSchema setting p location).value := by
    unfold parameterSchema
    split
    · exact built_schema setting _ _
    · split
      · exact built_schema setting _ _
      · exact built_unknown
    · exact built_unknown
  simpa [parameter] using h

lemma built_parameterOrRef? (p : Spec.RefOr Spec.Parameter) (location : String) :
    ∀ q ∈ (parameterOrRef? setting p location).value, Built setting.scope q.schema := by
  cases p with
  | item p => simpa [parameterOrRef?] using built_parameter setting p location
  | ref pointer =>
    unfold parameterOrRef?
    dsimp only
    split
    · simpa using built_parameter setting _ pointer
    · simp

lemma built_parameterListFrom (location : String) (index : Nat)
    (ps : List (Spec.RefOr Spec.Parameter)) :
    ∀ q ∈ (parameterListFrom setting location index ps).value, Built setting.scope q.schema := by
  induction ps generalizing index with
  | nil => simp [parameterListFrom]
  | cons p rest ih =>
    intro q hq
    simp only [parameterListFrom, Reported.value_bind, Reported.value_pure, List.mem_append,
      Option.mem_toList] at hq
    rcases hq with hq | hq
    · exact built_parameterOrRef? setting p _ q hq
    · exact ih (index + 1) q hq

lemma built_contentSchema (selected : Selected Spec.MediaType) (location : String) :
    Built setting.scope (contentSchema setting selected location).value := by
  unfold contentSchema
  split
  · exact built_schema setting _ _
  split
  · exact .constrained (by decide) { format := some "binary" }
  · exact built_unknown

lemma built_requestBody? (b : Spec.RequestBody) (location : String) :
    ∀ c ∈ (requestBody? setting b location).value, Built setting.scope c.schema := by
  unfold requestBody?
  split
  · simp
  · simpa using built_contentSchema setting _ location

lemma built_requestBodyOrRef? (b : Spec.RefOr Spec.RequestBody) (location : String) :
    ∀ c ∈ (requestBodyOrRef? setting b location).value, Built setting.scope c.schema := by
  cases b with
  | item b => exact built_requestBody? setting b location
  | ref pointer =>
    unfold requestBodyOrRef?
    dsimp only
    split
    · exact built_requestBody? setting _ pointer
    · simp

lemma built_response (status : String) (r : Spec.Response) (location : String) :
    Built setting.scope (response setting status r location).value.schema := by
  unfold response
  dsimp only
  split
  · simpa using built_contentSchema setting _ location
  · exact .plain (by split <;> decide)

lemma built_responseOrRef? (status : String) (r : Spec.RefOr Spec.Response)
    (location : String) :
    ∀ t ∈ (responseOrRef? setting status r location).value,
      Built setting.scope t.schema := by
  cases r with
  | item r => simpa [responseOrRef?] using built_response setting status r location
  | ref pointer =>
    unfold responseOrRef?
    dsimp only
    split
    · simpa using built_response setting status _ pointer
    · simp

lemma built_responses (location : String)
    (rs : Entries String (Spec.RefOr Spec.Response)) :
    ∀ t ∈ (responses setting location rs).value, Built setting.scope t.2.schema := by
  induction rs with
  | nil => simp [responses]
  | cons r rest ih =>
    obtain ⟨status, r⟩ := r
    intro t ht
    simp only [responses, Reported.value_bind, Reported.value_pure, List.mem_append,
      List.mem_map, Option.mem_toList] at ht
    rcases ht with ⟨own, hown, rfl⟩ | ht
    · exact built_responseOrRef? setting status r _ own hown
    · exact ih t ht

lemma built_operation (id : String) (method : HttpMethod) (path : String)
    {shared : List Parameter}
    (hshared : ∀ p ∈ shared, Built setting.scope p.schema)
    (op : Spec.Operation) (location : String) :
    ∀ s ∈ (operation setting id method path shared op location).value.roots,
      Built setting.scope s := by
  intro s hs
  simp only [operation, Reported.value_bind, Reported.value_pure, Operation.roots,
    List.mem_append, List.mem_map, Option.mem_toList, Option.map_eq_some_iff] at hs
  rcases hs with (⟨p, hp, rfl⟩ | ⟨b, hb, rfl⟩) | ⟨t, ht, rfl⟩
  · rcases List.mem_append.mp (Parameters.mem_of_mem_ofList hp) with hp | hp
    · exact hshared p hp
    · exact built_parameterListFrom setting _ 0 _ p hp
  · unfold operationBody? at hb
    split at hb
    · simp at hb
    · exact built_requestBodyOrRef? setting _ _ b hb
  · obtain ⟨entry, hentry, rfl⟩ := List.mem_map.mp ht
    exact built_responses setting location _ entry hentry

lemma built_operations (path : String) {shared : List Parameter}
    (hshared : ∀ p ∈ shared, Built setting.scope p.schema)
    (location : String) (ledger : Ledger) (ops : List (HttpMethod × Spec.Operation)) :
    ∀ op ∈ (operations setting path shared location ledger ops).value.1.values,
      ∀ s ∈ op.roots, Built setting.scope s := by
  induction ops generalizing ledger with
  | nil => simp [operations, Entries.values]
  | cons op rest ih =>
    obtain ⟨method, op⟩ := op
    intro own hown
    simp only [operations, Reported.value_bind, Reported.value_pure, Entries.values,
      List.map_cons, List.mem_cons] at hown
    rcases hown with rfl | hown
    · exact built_operation setting _ method path hshared op _
    · exact ih _ own hown

lemma built_pathItem (sec : Section) (ledger : Ledger) (key : String)
    (item : Spec.PathItem) :
    ∀ op ∈ (pathItem setting sec ledger key item).value.1.values,
      ∀ s ∈ op.roots, Built setting.scope s := by
  unfold pathItem
  dsimp only
  split
  · simp [Entries.values]
  · exact built_operations setting key
      (built_parameterListFrom setting _ 0 _) _ _ _

lemma built_pathItems (sec : Section) (ledger : Ledger)
    (items : Entries String Spec.PathItem) :
    ∀ op ∈ (pathItems setting sec ledger items).value.1.values.flatMap Entries.values,
      ∀ s ∈ op.roots, Built setting.scope s := by
  induction items generalizing ledger with
  | nil => simp [pathItems, Entries.values]
  | cons item rest ih =>
    obtain ⟨key, item⟩ := item
    intro op hop
    obtain ⟨group, hgroup, hop⟩ := List.mem_flatMap.mp hop
    obtain ⟨entry, hentry, rfl⟩ := List.mem_map.mp hgroup
    simp only [pathItems, Reported.value_bind, Reported.value_pure, List.mem_append] at hentry
    rcases hentry with hentry | hentry
    · split at hentry
      · simp at hentry
      · obtain rfl := List.mem_singleton.mp hentry
        exact built_pathItem setting sec ledger key item op hop
    · exact ih _ op (List.mem_flatMap.mpr ⟨entry.2, List.mem_map_of_mem hentry, hop⟩)

/-! ### Components -/

lemma built_componentParameters (ps : Entries String (Spec.RefOr Spec.Parameter)) :
    ∀ p ∈ (componentParameters setting ps).value.values, Built setting.scope p.schema := by
  induction ps with
  | nil => simp [componentParameters, Entries.values]
  | cons p rest ih =>
    obtain ⟨name, p⟩ := p
    intro q hq
    simp only [componentParameters, Reported.value_bind, Reported.value_pure, Entries.values,
      List.map_append, List.map_map, List.mem_append, List.mem_map, Option.mem_toList] at hq
    rcases hq with ⟨own, hown, rfl⟩ | ⟨entry, hentry, rfl⟩
    · exact built_parameterOrRef? setting p _ own hown
    · exact ih entry.2 (List.mem_map_of_mem hentry)

lemma built_componentBodies (bs : Entries String (Spec.RefOr Spec.RequestBody)) :
    ∀ b ∈ (componentBodies setting bs).value.values, Built setting.scope b.schema := by
  induction bs with
  | nil => simp [componentBodies, Entries.values]
  | cons b rest ih =>
    obtain ⟨name, b⟩ := b
    intro c hc
    simp only [componentBodies, Reported.value_bind, Reported.value_pure, Entries.values,
      List.map_append, List.map_map, List.mem_append, List.mem_map, Option.mem_toList] at hc
    rcases hc with ⟨own, hown, rfl⟩ | ⟨entry, hentry, rfl⟩
    · exact built_requestBodyOrRef? setting b _ own hown
    · exact ih entry.2 (List.mem_map_of_mem hentry)

end

lemma built_componentSchemas (scope : Scope)
    (cs : Entries String (Spec.Position Spec.Schema)) :
    ∀ s ∈ (componentSchemas scope cs).value.values, Built scope s := by
  induction cs with
  | nil => simp [componentSchemas, Entries.values]
  | cons c rest ih =>
    obtain ⟨name, p⟩ := c
    intro s hs
    simp only [componentSchemas, Reported.value_bind, Reported.value_pure, Entries.values,
      List.map_cons, List.mem_cons] at hs
    rcases hs with rfl | hs
    · exact built_position scope _ p _
    · exact ih s hs

/-! ### Models -/

/-- Every schema that an entry of a model begins with is built. -/
theorem built_of_mem_roots (source : Spec.Source) (options : Options) :
    ∀ s ∈ (api source options).value.roots, Built (.ofSource source) s := by
  intro s hs
  simp only [Api.roots, List.mem_append, List.mem_map, List.mem_flatMap] at hs
  rcases hs with ((hs | ⟨p, hp, rfl⟩) | ⟨b, hb, rfl⟩) | ⟨op, hop | hop, hs⟩
  · exact built_componentSchemas _ _ s hs
  · exact built_componentParameters _ _ p hp
  · exact built_componentBodies _ _ b hb
  · exact built_pathItems _ .paths _ _ op hop s hs
  · exact built_pathItems _ .webhooks _ _ op hop s hs

end Normalize

end OpenApiTypes
