/-
What the operations of a model are told apart by.

* `Normalize.Claims`: claiming ids one after the other; none of them was claimed before;
* `Normalize.nodup_ids`: the ids of all operations of a model are distinct, webhooks included;
* `Normalize.nodup_webhooks`, `Normalize.nodup_catalog`: so are the names of the webhooks and of the
  components of a document that was read;
* `Normalize.nodup_methods`: and so are the methods of the operations of a webhook.
-/
import OpenApiTypes.Proofs.Naming.Fresh
import OpenApiTypes.Proofs.Normalize.Throughout
import OpenApiTypes.Proofs.Spec.Source

namespace OpenApiTypes.Normalize

open OpenApiTypes.Model

/-! ### Claimed ids -/

/-- Ids are claimed one after the other: they are distinct, and none was claimed before. -/
structure Claims (before : ClaimedIds) (ids : List String) (after : ClaimedIds) : Prop where
  nodup : ids.Nodup
  fresh : ∀ id ∈ ids, id ∉ before
  mem_after : ∀ id, id ∈ after ↔ id ∈ ids ∨ id ∈ before

variable {before between after : ClaimedIds} {ids others : List String}

lemma Claims.nil (claimed : ClaimedIds) : Claims claimed [] claimed :=
  ⟨List.nodup_nil, by simp, by simp⟩

lemma Claims.append (h : Claims before ids between) (h' : Claims between others after) :
    Claims before (ids ++ others) after := by
  refine ⟨List.nodup_append.mpr ⟨h.nodup, h'.nodup, ?_⟩, fun id hid => ?_, fun id => ?_⟩
  · rintro id hid _ hother rfl
    exact h'.fresh id hother ((h.mem_after id).mpr (.inl hid))
  · rcases List.mem_append.mp hid with hid | hid
    · exact h.fresh id hid
    · exact fun hbefore => h'.fresh id hid ((h.mem_after id).mpr (.inr hbefore))
  · rw [h'.mem_after, h.mem_after, List.mem_append]
    tauto

lemma Claims.claim (claimed : ClaimedIds) (base path : String) :
    Claims claimed [(claimed.claim base path).1] (claimed.claim base path).2 := by
  refine ⟨by simp, ?_, by simp [ClaimedIds.claim]⟩
  simpa [ClaimedIds.claim] using claimed.choose_not_mem base path

/-! ### Operations -/

variable (setting : Setting)

@[simp] lemma id_operation (id : String) (method : HttpMethod) (path : String)
    (shared : List Parameter) (op : Spec.Operation) (location : String) :
    (operation setting id method path shared op location).value.id = id := rfl

@[simp] lemma method_operation (id : String) (method : HttpMethod) (path : String)
    (shared : List Parameter) (op : Spec.Operation) (location : String) :
    (operation setting id method path shared op location).value.method = method := rfl

/-- The ids of the operations of a path. -/
abbrev operationIds (ops : PathOperations) : List String := ops.values.map Operation.id

lemma claims_operations (path : String) (shared : List Parameter) (location : String)
    (ledger : Ledger) (ops : List (HttpMethod × Spec.Operation)) :
    Claims ledger.claimed
      (operationIds (operations setting path shared location ledger ops).value.1)
      (operations setting path shared location ledger ops).value.2.claimed := by
  induction ops generalizing ledger with
  | nil => exact .nil _
  | cons op rest ih =>
    obtain ⟨method, op⟩ := op
    have hown := Claims.claim ledger.claimed (Naming.operationId setting.options.strategy
      setting.options.aliases method path op.operationId) path
    exact hown.append (ih ⟨Server.addAll ledger.servers op.servers, _⟩)

/-- Every operation of a path is listed under its method. -/
lemma method_eq_of_mem_operations (path : String) (shared : List Parameter) (location : String)
    (ledger : Ledger) (ops : List (HttpMethod × Spec.Operation)) :
    ∀ p ∈ (operations setting path shared location ledger ops).value.1, p.2.method = p.1 := by
  induction ops generalizing ledger with
  | nil => simp [operations]
  | cons op rest ih => exact List.forall_mem_cons.mpr ⟨rfl, ih _⟩

lemma keys_operations (path : String) (shared : List Parameter) (location : String)
    (ledger : Ledger) (ops : List (HttpMethod × Spec.Operation)) :
    (operations setting path shared location ledger ops).value.1.keys = ops.map Prod.fst := by
  induction ops generalizing ledger with
  | nil => rfl
  | cons op rest ih => exact congrArg (op.1 :: ·) (ih _)

lemma nodup_operations (item : Spec.PathItem) : (item.operations.map Prod.fst).Nodup := by
  have hmap : item.operations.map Prod.fst
      = HttpMethod.all.filter fun method => (item.operation? method).isSome := by
    rw [Spec.PathItem.operations, List.map_filterMap, ← List.filterMap_eq_filter]
    congr 1
    funext method
    cases h : item.operation? method <;> simp [Option.guard, h]
  rw [hmap]
  exact List.Nodup.filter _ (by decide)

lemma claims_pathItem (sec : Section) (ledger : Ledger) (key : String) (item : Spec.PathItem) :
    Claims ledger.claimed (operationIds (pathItem setting sec ledger key item).value.1)
      (pathItem setting sec ledger key item).value.2.claimed := by
  unfold pathItem
  dsimp only
  split
  · exact .nil _
  · rename_i item _
    exact claims_operations setting key _ _
      ⟨Server.addAll ledger.servers item.servers, ledger.claimed⟩ _

/-- The operations of a path item are listed under their methods, and each method once. -/
lemma methods_pathItem (sec : Section) (ledger : Ledger) (key : String) (item : Spec.PathItem) :
    (∀ p ∈ (pathItem setting sec ledger key item).value.1, p.2.method = p.1)
      ∧ (pathItem setting sec ledger key item).value.1.keys.Nodup := by
  unfold pathItem
  dsimp only
  split
  · exact ⟨by simp, List.nodup_nil⟩
  · refine ⟨method_eq_of_mem_operations setting key _ _ _ _, ?_⟩
    simpa [keys_operations] using nodup_operations _

lemma claims_pathItems (sec : Section) (ledger : Ledger) (items : Entries String Spec.PathItem) :
    Claims ledger.claimed
      ((pathItems setting sec ledger items).value.1.values.flatMap operationIds)
      (pathItems setting sec ledger items).value.2.claimed := by
  induction items generalizing ledger with
  | nil => exact .nil _
  | cons item rest ih =>
    obtain ⟨key, item⟩ := item
    have hown := claims_pathItem setting sec ledger key item
    have hrest := ih (pathItem setting sec ledger key item).value.2
    have hids : operationIds (pathItem setting sec ledger key item).value.1
        = (Entries.values (if (pathItem setting sec ledger key item).value.1.isEmpty then []
          else [(key, (pathItem setting sec ledger key item).value.1)])).flatMap operationIds := by
      split
      · simp_all [Entries.values]
      · simp [Entries.values]
    rw [hids] at hown
    simpa [pathItems, Entries.values] using hown.append hrest

/-- Paths and webhooks keep their order; some may be left out. -/
lemma keys_pathItems_sublist (sec : Section) (ledger : Ledger)
    (items : Entries String Spec.PathItem) :
    (pathItems setting sec ledger items).value.1.keys.Sublist items.keys := by
  induction items generalizing ledger with
  | nil => exact List.nil_sublist _
  | cons item rest ih =>
    obtain ⟨key, item⟩ := item
    have hrest := ih (pathItem setting sec ledger key item).value.2
    simp only [pathItems, Reported.value_bind, Reported.value_pure, Entries.keys]
    split
    · exact hrest.cons key
    · exact hrest.cons_cons key

lemma methods_pathItems (sec : Section) (ledger : Ledger)
    (items : Entries String Spec.PathItem) :
    ∀ ops ∈ (pathItems setting sec ledger items).value.1.values,
      (∀ p ∈ ops, p.2.method = p.1) ∧ ops.keys.Nodup := by
  induction items generalizing ledger with
  | nil => simp [pathItems, Entries.values]
  | cons item rest ih =>
    obtain ⟨key, item⟩ := item
    have hrest := ih (pathItem setting sec ledger key item).value.2
    simp only [pathItems, Reported.value_bind, Reported.value_pure, Entries.values,
      List.map_append, List.mem_append]
    rintro ops (hops | hops)
    · split at hops
      · simp at hops
      · obtain rfl := List.mem_singleton.mp hops
        exact methods_pathItem setting sec ledger key item
    · exact hrest ops hops

/-! ### Models -/

/-- The ids of all operations of a model are distinct, those of webhooks included. -/
theorem nodup_ids (source : Spec.Source) (options : Options) :
    (((api source options).value.operations ++ (api source options).value.webhookOperations).map
      Operation.id).Nodup := by
  have hflat : ∀ groups : Entries String PathOperations,
      (groups.values.flatMap Entries.values).map Operation.id
        = groups.values.flatMap operationIds := fun groups => by
    rw [List.map_flatMap]
  rw [List.map_append, Api.operations, Api.webhookOperations, hflat, hflat]
  exact ((claims_pathItems _ .paths _ source.document.paths).append
    (claims_pathItems _ .webhooks _ source.document.webhooks)).nodup

/-- So are the names of the webhooks of a document that was read. -/
lemma nodup_webhooks {source : Spec.Source} (h : source.IsRead) (options : Options) :
    (api source options).value.webhooks.keys.Nodup :=
  h.nodup_webhooks.sublist (keys_pathItems_sublist _ .webhooks _ _)

lemma nodup_catalog {source : Spec.Source} (h : source.IsRead) (options : Options) :
    (api source options).value.catalog.keys.Nodup := by
  rw [keys_catalog_api]
  exact h.nodup_schemas

/-- The operations of a webhook are listed under their methods, and each method once. -/
lemma nodup_methods (source : Spec.Source) (options : Options) :
    ∀ ops ∈ (api source options).value.webhooks.values,
      (∀ p ∈ ops, p.2.method = p.1) ∧ ops.keys.Nodup :=
  methods_pathItems _ .webhooks _ source.document.webhooks

end OpenApiTypes.Normalize
