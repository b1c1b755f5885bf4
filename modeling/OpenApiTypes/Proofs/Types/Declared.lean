/-
What the file of types declares, and under which references.

* `Types.Declared`: a type of a component, an operation or a webhook;
* `Types.Declared.pointer_injective`: different ones have different references;
* `Types.declaredTypes`, `Types.declaredConstants`: the types and the constants that an entry of a
  model gives;
* `Types.nodup_declaredTypes`: no entry of the model of a document gives what another one gives.
-/
import OpenApiTypes.Proofs.Generation.Steps
import OpenApiTypes.Proofs.Normalize.Ids
import OpenApiTypes.Proofs.Pointer
import OpenApiTypes.Types.Declarations

namespace OpenApiTypes.Types

open OpenApiTypes.Model
open OpenApiTypes.Config (TypesOptions)

/-- A type that the file of types declares. -/
inductive Declared where
  | schema (name : String)
  | operation (id : String) (type : OperationType)
  | webhook (name : String) (method : HttpMethod)

namespace Declared

/-- The reference under which the type is named. -/
def pointer : Declared → String
  | schema name => Pointer.schema name
  | operation id type => operationReference id type
  | webhook name method => webhookReference name method

/-! ### References -/

/-- What the references of types that belong to operations end in. -/
def endings : List (List Char) :=
  ["Data", "Errors", "Error", "Responses", "Response", "WebhookPayload"].map String.toList

lemma suffix_mem_endings (type : OperationType) : type.suffix.toList ∈ endings := by
  cases type <;> decide +kernel

lemma suffix_injective : Function.Injective OperationType.suffix := by
  intro t u h
  cases t <;> cases u <;> first | rfl | simp [OperationType.suffix] at h

/-- No ending is the end of another one, so a text has at most one of them. -/
lemma append_ending_inj {a b s t : List Char} (hs : s ∈ endings) (ht : t ∈ endings)
    (h : a ++ s = b ++ t) : a = b ∧ s = t := by
  have hends : ∀ s ∈ endings, ∀ t ∈ endings, s <:+ t → s = t := by decide +kernel
  have hst : s = t := by
    rcases List.suffix_or_suffix_of_suffix (List.suffix_append a s) (h ▸ List.suffix_append b t)
      with hsuffix | hsuffix
    · exact hends s hs t ht hsuffix
    · exact (hends t ht s hs hsuffix).symm
  subst hst
  exact ⟨List.append_cancel_right h, rfl⟩

lemma lower_injective : Function.Injective HttpMethod.lower := by
  intro m n h
  cases m <;> cases n <;> first | rfl | simp [HttpMethod.lower] at h

lemma slash_not_mem_lower (method : HttpMethod) : '/' ∉ method.lower.toList := by
  cases method <;> decide +kernel

/-- The first slash ends what comes before it. -/
lemma append_slash_inj {a b x y : List Char} (ha : '/' ∉ a) (hb : '/' ∉ b)
    (h : a ++ '/' :: x = b ++ '/' :: y) : a = b ∧ x = y := by
  induction a generalizing b with
  | nil =>
    cases b with
    | nil => exact ⟨rfl, (List.cons.inj h).2⟩
    | cons d b => exact absurd ((List.cons.inj h).1 ▸ List.mem_cons_self) hb
  | cons c a ih =>
    cases b with
    | nil => exact absurd ((List.cons.inj h).1 ▸ List.mem_cons_self) ha
    | cons d b =>
      obtain ⟨rfl, htail⟩ := List.cons.inj h
      obtain ⟨rfl, rfl⟩ := ih (fun hc => ha (List.mem_cons_of_mem _ hc))
        (fun hc => hb (List.mem_cons_of_mem _ hc)) htail
      exact ⟨rfl, rfl⟩

lemma webhookReference_eq (name : String) (method : HttpMethod) : webhookReference name method
    = "#/ir/webhooks/" ++ method.lower ++ "/" ++ name ++ "WebhookPayload" := by
  delta webhookReference
  rfl

lemma webhookReference_injective {name other : String} {method method' : HttpMethod}
    (h : webhookReference name method = webhookReference other method') :
    name = other ∧ method = method' := by
  have hform : ∀ (name : String) (method : HttpMethod), (webhookReference name method).toList
      = "#/ir/webhooks/".toList ++ ((method.lower.toList ++ '/' :: name.toList)
        ++ "WebhookPayload".toList) := fun name method => by
    have hslash : "/".toList = ['/'] := by decide +kernel
    simp only [webhookReference_eq, String.toList_append, hslash, List.append_assoc,
      List.cons_append, List.nil_append]
  have hchars := congrArg String.toList h
  rw [hform, hform] at hchars
  obtain ⟨hmethod, hname⟩ := append_slash_inj (slash_not_mem_lower method)
    (slash_not_mem_lower method') (List.append_cancel_right (List.append_cancel_left hchars))
  exact ⟨String.toList_inj.mp hname, lower_injective (String.toList_inj.mp hmethod)⟩

/-- Different types have different references. -/
theorem pointer_injective : Function.Injective pointer := by
  have hschema : ∀ (name : String) (rest : List Char), (Pointer.schema name).toList
      ≠ "#/ir/".toList ++ rest := by
    intro name rest h
    have := congrArg (List.take 3) h
    simp [Pointer.schema, Pointer.schemaPrefix] at this
  have hoperation : ∀ id type, (operationReference id type).toList
      = "#/ir/".toList ++ (id.toList ++ type.suffix.toList) := fun id type => by
    simp only [operationReference, String.toList_append, List.append_assoc]
  have hwebhook : ∀ name method, (webhookReference name method).toList
      = "#/ir/".toList ++ (("webhooks/" ++ method.lower ++ "/" ++ name).toList
        ++ "WebhookPayload".toList) := fun name method => by
    have hsplit : ("#/ir/webhooks/" : String) = "#/ir/" ++ "webhooks/" := by decide +kernel
    simp only [webhookReference_eq, hsplit, String.toList_append, List.append_assoc]
  have hpayload : "WebhookPayload".toList ∈ endings := by decide +kernel
  have hdistinct : ∀ id type name method,
      (operationReference id type).toList ≠ (webhookReference name method).toList := by
    intro id type name method h
    rw [hoperation, hwebhook] at h
    have hends := (append_ending_inj (suffix_mem_endings type) hpayload
      (List.append_cancel_left h)).2
    cases type <;> simp [OperationType.suffix] at hends
  intro d e h
  have hchars : d.pointer.toList = e.pointer.toList := congrArg String.toList h
  cases d <;> cases e <;> simp only [pointer] at h hchars
  case schema.schema => rw [Pointer.schema_injective h]
  case schema.operation => exact absurd (hchars.trans (hoperation _ _)) (hschema _ _)
  case schema.webhook => exact absurd (hchars.trans (hwebhook _ _)) (hschema _ _)
  case operation.schema => exact absurd (hchars.symm.trans (hoperation _ _)) (hschema _ _)
  case operation.operation id type id' type' =>
    rw [hoperation, hoperation] at hchars
    obtain ⟨hid, htype⟩ := append_ending_inj (suffix_mem_endings type) (suffix_mem_endings type')
      (List.append_cancel_left hchars)
    rw [String.toList_inj.mp hid, suffix_injective (String.toList_inj.mp htype)]
  case operation.webhook => exact absurd hchars (hdistinct _ _ _ _)
  case webhook.schema => exact absurd (hchars.symm.trans (hwebhook _ _)) (hschema _ _)
  case webhook.operation => exact absurd hchars.symm (hdistinct _ _ _ _)
  case webhook.webhook =>
    obtain ⟨rfl, rfl⟩ := webhookReference_injective h
    rfl

end Declared

/-! ### Entries of a model -/

/-- The types of the responses of an operation: all of them by status, and any of them. -/
def responseTypes (rs : Responses) (byStatus any : OperationType) : List OperationType :=
  if rs.isEmpty then [] else byStatus :: if rs.schema?.isSome then [any] else []

/-- The types that belong to an operation. -/
def operationTypes (op : Operation) : List OperationType :=
  .data :: (responseTypes op.errors .errors .error
    ++ responseTypes op.successes .responses .response)

/-- The type of what a webhook sends, if it sends anything. -/
def webhookTypes (name : String) (op : Operation) : List Declared :=
  if op.body.isSome then [.webhook name op.method] else []

/-- The types that an entry of a model gives. -/
def declaredTypes : Generation.Event → List Declared
  | .schema name _ => [.schema name]
  | .operation op => (operationTypes op).map (.operation op.id)
  | .webhook name op => webhookTypes name op
  | _ => []

/-- The components for which an entry of a model gives a constant. -/
def declaredConstants (options : TypesOptions) : Generation.Event → List String
  | .schema name s => if options.enums && s.hasShape .enum then [name] else []
  | _ => []

/-- The entries that give types. -/
abbrev typeEvents (api : Api) : List Generation.Event :=
  Generation.eventsOf api [.schema, .operation, .webhook]

lemma typeEvents_eq (api : Api) :
    typeEvents api = api.catalog.map (fun (name, s) => .schema name s)
      ++ api.operations.map .operation
      ++ api.webhooks.flatMap fun (name, operations) => operations.values.map fun op =>
        .webhook name op := by
  simp [Generation.eventsOf_eq, Generation.entriesOf]

lemma nodup_operationTypes (op : Operation) : (operationTypes op).Nodup := by
  unfold operationTypes responseTypes
  split_ifs <;> decide

lemma eq_of_mem_webhookTypes {name : String} {op : Operation} {d : Declared}
    (h : d ∈ webhookTypes name op) : d = .webhook name op.method := by
  unfold webhookTypes at h
  split at h
  · exact List.mem_singleton.mp h
  · simp at h

/-- Operations with different ids give different types. -/
lemma nodup_declared_operations {operations : List Operation}
    (hids : (operations.map Operation.id).Nodup) :
    (operations.flatMap fun op => (operationTypes op).map (Declared.operation op.id)).Nodup := by
  refine List.nodup_flatMap.mpr ⟨fun op _ => ?_, ?_⟩
  · exact (nodup_operationTypes op).map fun t u htu => by injection htu
  · refine (List.pairwise_map.mp hids).imp fun {op op'} hne d hd hd' => ?_
    obtain ⟨t, -, rfl⟩ := List.mem_map.mp hd
    obtain ⟨u, -, hu⟩ := List.mem_map.mp hd'
    injection hu with hid _
    exact hne hid.symm

/-- So do webhooks with different names, and the operations under one name by their methods. -/
lemma nodup_declared_webhooks {webhooks : Entries String PathOperations}
    (hnames : webhooks.keys.Nodup)
    (hmethods : ∀ ops ∈ webhooks.values, (∀ p ∈ ops, p.2.method = p.1) ∧ ops.keys.Nodup) :
    (webhooks.flatMap fun group => group.2.values.flatMap (webhookTypes group.1)).Nodup := by
  refine List.nodup_flatMap.mpr ⟨fun group hgroup => ?_, ?_⟩
  · obtain ⟨hmethod, hnodup⟩ := hmethods group.2 (List.mem_map_of_mem hgroup)
    have hkeys : group.2.values.map Operation.method = group.2.keys := by
      rw [Entries.values, List.map_map]
      exact List.map_congr_left hmethod
    refine List.nodup_flatMap.mpr ⟨fun op _ => by unfold webhookTypes; split <;> simp, ?_⟩
    refine (List.pairwise_map.mp (hkeys ▸ hnodup)).imp fun {op op'} hne d hd hd' => ?_
    have hwebhook := (eq_of_mem_webhookTypes hd).symm.trans (eq_of_mem_webhookTypes hd')
    exact hne (by injection hwebhook)
  · refine (List.pairwise_map.mp hnames).imp fun {group group'} hne d hd hd' => ?_
    obtain ⟨op, -, hd⟩ := List.mem_flatMap.mp hd
    obtain ⟨op', -, hd'⟩ := List.mem_flatMap.mp hd'
    have hwebhook := (eq_of_mem_webhookTypes hd).symm.trans (eq_of_mem_webhookTypes hd')
    exact hne (by injection hwebhook)

/-- The types of a model are those of its components, operations and webhooks. -/
lemma flatMap_declaredTypes (api : Api) : (typeEvents api).flatMap declaredTypes
    = api.catalog.map (fun (name, _) => Declared.schema name)
      ++ (api.operations.flatMap fun op => (operationTypes op).map (Declared.operation op.id))
      ++ api.webhooks.flatMap fun group => group.2.values.flatMap (webhookTypes group.1) := by
  rw [typeEvents_eq, List.flatMap_append, List.flatMap_append, List.flatMap_map, List.flatMap_map,
    List.flatMap_assoc, List.map_eq_flatMap]
  simp only [List.flatMap_map]
  rfl

/-- No entry of the model of a document gives a type that another one gives. -/
lemma nodup_declaredTypes {source : Spec.Source} (h : source.IsRead) (options : Normalize.Options) :
    ((typeEvents (Normalize.api source options).value).flatMap declaredTypes).Nodup := by
  have hschemas : ((Normalize.api source options).value.catalog.map
      fun (name, _) => Declared.schema name).Nodup := by
    have := (Normalize.nodup_catalog h options).map (f := Declared.schema)
      fun a b hab => by injection hab
    simpa [Entries.keys, Function.comp_def] using this
  have hids := Normalize.nodup_ids source options
  rw [List.map_append] at hids
  have hoperations := nodup_declared_operations hids.of_append_left
  have hwebhooks := nodup_declared_webhooks (Normalize.nodup_webhooks h options)
    (Normalize.nodup_methods source options)
  rw [flatMap_declaredTypes]
  refine List.nodup_append'.mpr ⟨List.nodup_append'.mpr ⟨hschemas, hoperations, ?_⟩, hwebhooks, ?_⟩
  · intro d hd hd'
    obtain ⟨component, -, rfl⟩ := List.mem_map.mp hd
    obtain ⟨op, -, hd'⟩ := List.mem_flatMap.mp hd'
    obtain ⟨t, -, ht⟩ := List.mem_map.mp hd'
    simp at ht
  · intro d hd hd'
    obtain ⟨group, -, hd'⟩ := List.mem_flatMap.mp hd'
    obtain ⟨op, -, hd'⟩ := List.mem_flatMap.mp hd'
    obtain rfl := eq_of_mem_webhookTypes hd'
    rcases List.mem_append.mp hd with hd | hd
    · obtain ⟨component, -, hcomponent⟩ := List.mem_map.mp hd
      simp at hcomponent
    · obtain ⟨op', -, hd⟩ := List.mem_flatMap.mp hd
      obtain ⟨t, -, ht⟩ := List.mem_map.mp hd
      simp at ht

end OpenApiTypes.Types
