/-
Which operations a model has.

* `Normalize.outline_pathItems`: a section has the methods that its path items declare, or those
  that their references lead to;
* `Normalize.Lists`, `Normalize.Declares`: where a model has an operation, and where a document
  declares one;
* `Normalize.exists_lists`: a model has what every operation of a document is turned into, and the
  warnings that this raises;
* `Normalize.lists_iff_declares_of_run`: these are the same places. There is one operation at each,
  which knows its place, and no two operations have one id.
-/
import OpenApiTypes.Proofs.Normalize.Ids

namespace OpenApiTypes.Normalize

open OpenApiTypes.Model

variable (setting : Setting)

/-! ### Operations of a section -/

/-- The methods that a path item declares, or the item that its reference leads to. -/
def declaredMethods (scope : Scope) (item : Spec.PathItem) : List HttpMethod :=
  match resolvedItem scope item with
  | .ok declared => declared.operations.map Prod.fst
  | .error _ => []

lemma keys_pathItem (sec : Section) (ledger : Ledger) (key : String) (item : Spec.PathItem) :
    (pathItem setting sec ledger key item).value.1.keys = declaredMethods setting.scope item := by
  unfold pathItem declaredMethods
  cases resolvedItem setting.scope item with
  | error e => rfl
  | ok declared => exact keys_operations setting key _ _ _ _

/-- A section has the methods that its path items declare. Those that declare none are left out. -/
lemma outline_pathItems (sec : Section) (ledger : Ledger) (items : Entries String Spec.PathItem) :
    (pathItems setting sec ledger items).value.1.mapValues Entries.keys
      = (items.mapValues (declaredMethods setting.scope)).filter fun p => !p.2.isEmpty := by
  induction items generalizing ledger with
  | nil => rfl
  | cons item rest ih =>
    obtain ⟨key, item⟩ := item
    have hrest := ih (pathItem setting sec ledger key item).value.2
    have hkeys := keys_pathItem setting sec ledger key item
    set own := pathItem setting sec ledger key item
    have hcons : (pathItems setting sec ledger ((key, item) :: rest)).value.1
        = (if own.value.1.isEmpty then [] else [(key, own.value.1)])
          ++ (pathItems setting sec own.value.2 rest).value.1 := rfl
    have hempty : (declaredMethods setting.scope item).isEmpty = own.value.1.isEmpty := by
      rw [← hkeys, Entries.keys, List.isEmpty_map]
    simp only [Entries.mapValues, List.map_cons, List.filter_cons, hempty] at hrest ⊢
    rw [hcons, List.map_append, hrest, ← hkeys]
    cases own.value.1.isEmpty <;> rfl

lemma path_eq_of_mem_operations (path : String) (shared : List Parameter) (location : String)
    (ledger : Ledger) (ops : List (HttpMethod × Spec.Operation)) :
    ∀ p ∈ (operations setting path shared location ledger ops).value.1, p.2.path = path := by
  induction ops generalizing ledger with
  | nil => simp [operations]
  | cons op rest ih => exact List.forall_mem_cons.mpr ⟨rfl, ih _⟩

/-- Every operation of a section stands at its path. -/
lemma path_pathItems (sec : Section) (ledger : Ledger) (items : Entries String Spec.PathItem) :
    ∀ group ∈ (pathItems setting sec ledger items).value.1, ∀ p ∈ group.2, p.2.path = group.1 := by
  induction items generalizing ledger with
  | nil => simp [pathItems]
  | cons item rest ih =>
    obtain ⟨key, item⟩ := item
    have hown : ∀ p ∈ (pathItem setting sec ledger key item).value.1, p.2.path = key := by
      unfold pathItem
      dsimp only
      split
      · simp
      · exact path_eq_of_mem_operations setting key _ _ _ _
    have hrest := ih (pathItem setting sec ledger key item).value.2
    simp only [pathItems, Reported.value_bind, Reported.value_pure, List.mem_append]
    rintro group (hgroup | hgroup)
    · split at hgroup
      · simp at hgroup
      · obtain rfl := List.mem_singleton.mp hgroup
        exact hown
    · exact hrest group hgroup

/-! ### Operations of a document -/

/-- The path items of a section of a document. -/
def Section.items (sec : Section) (d : Spec.Document) : Entries String Spec.PathItem :=
  match sec with
  | paths => d.paths
  | webhooks => d.webhooks

/-- The operations of a section of a model. -/
def Section.groups (sec : Section) (api : Api) : Entries String PathOperations :=
  match sec with
  | paths => api.paths
  | webhooks => api.webhooks

/-- A document declares an operation: the path item at a key of a section has it, or the one that
its reference leads to. -/
def Declares (source : Spec.Source) (sec : Section) (key : String) (method : HttpMethod) : Prop :=
  ∃ item declared, (sec.items source.document).get? key = some item
    ∧ resolvedItem (.ofSource source) item = .ok declared ∧ (declared.operation? method).isSome

/-- A model has an operation at a key of a section, under a method. -/
def Lists (api : Api) (sec : Section) (key : String) (method : HttpMethod) (op : Operation) :
    Prop :=
  ∃ group, (key, group) ∈ sec.groups api ∧ (method, op) ∈ group

lemma mem_declaredMethods {scope : Scope} {item : Spec.PathItem} {method : HttpMethod} :
    method ∈ declaredMethods scope item ↔
      ∃ declared, resolvedItem scope item = .ok declared ∧ (declared.operation? method).isSome := by
  have hall : ∀ method, method ∈ HttpMethod.all := fun method => by cases method <;> decide
  unfold declaredMethods
  cases resolvedItem scope item with
  | error e => simp
  | ok declared =>
    simp [Spec.PathItem.operations, Option.isSome_iff_exists, hall]

/-- What all operations of a document share. -/
def settingOf (source : Spec.Source) (options : Options) : Setting where
  options
  scope := .ofSource source
  catalog := (componentSchemas (.ofSource source)
    (source.document.components.getD {}).schemas).value
  schemes := (securitySchemes (source.document.components.getD {}).securitySchemes).value
  security := source.document.security

/-- The sections of a model are made in one setting, and their warnings are those of the model. -/
lemma exists_section (source : Spec.Source) (options : Options) (sec : Section) : ∃ ledger,
    let made := pathItems (settingOf source options) sec ledger (sec.items source.document)
    sec.groups (api source options).value = made.value.1
      ∧ made.diagnostics ⊆ (api source options).diagnostics := by
  cases sec with
  | paths =>
    refine ⟨_, rfl, fun d hd => ?_⟩
    simp only [api, Reported.diagnostics_bind, List.mem_append]
    exact .inr (.inr (.inr (.inr (.inl hd))))
  | webhooks =>
    refine ⟨_, rfl, fun d hd => ?_⟩
    simp only [api, Reported.diagnostics_bind, List.mem_append]
    exact .inr (.inr (.inr (.inr (.inr (.inl hd)))))

/-- Every section of a model is made of the path items of the document. -/
lemma exists_groups_eq (source : Spec.Source) (options : Options) (sec : Section) :
    ∃ setting ledger, setting.scope = .ofSource source
      ∧ sec.groups (api source options).value
        = (pathItems setting sec ledger (sec.items source.document)).value.1 := by
  obtain ⟨ledger, hgroups, -⟩ := exists_section source options sec
  exact ⟨_, ledger, rfl, hgroups⟩

variable {source : Spec.Source} {sec : Section}

lemma nodup_items (h : source.IsRead) (sec : Section) : (sec.items source.document).keys.Nodup := by
  cases sec with
  | paths => exact h.nodup_paths
  | webhooks => exact h.nodup_webhooks

lemma exists_lists_iff (hitems : (sec.items source.document).keys.Nodup) (options : Options)
    (key : String) (method : HttpMethod) :
    (∃ op, Lists (api source options).value sec key method op) ↔
      Declares source sec key method := by
  obtain ⟨setting, ledger, hscope, hgroups⟩ := exists_groups_eq source options sec
  have houtline := outline_pathItems setting sec ledger (sec.items source.document)
  rw [← hgroups, hscope] at houtline
  calc (∃ op, Lists (api source options).value sec key method op)
      ↔ ∃ methods, (key, methods) ∈ (sec.groups (api source options).value).mapValues Entries.keys
          ∧ method ∈ methods := by
        simp only [Lists, Entries.mapValues, List.mem_map, Prod.mk.injEq, Prod.exists]
        constructor
        · rintro ⟨op, group, hgroup, hop⟩
          exact ⟨_, ⟨key, group, hgroup, rfl, rfl⟩, List.mem_map_of_mem hop⟩
        · rintro ⟨_, ⟨_, group, hgroup, rfl, rfl⟩, hmethod⟩
          obtain ⟨⟨_, op⟩, hop, rfl⟩ := List.mem_map.mp hmethod
          exact ⟨op, group, hgroup, hop⟩
    _ ↔ ∃ item, (key, item) ∈ sec.items source.document
          ∧ method ∈ declaredMethods (.ofSource source) item := by
        rw [houtline]
        simp only [Entries.mapValues, List.mem_filter, List.mem_map, Prod.mk.injEq, Prod.exists]
        constructor
        · rintro ⟨_, ⟨⟨_, item, hitem, rfl, rfl⟩, -⟩, hmethod⟩
          exact ⟨item, hitem, hmethod⟩
        · rintro ⟨item, hitem, hmethod⟩
          refine ⟨_, ⟨⟨key, item, hitem, rfl, rfl⟩, ?_⟩, hmethod⟩
          simpa using List.ne_nil_of_mem hmethod
    _ ↔ Declares source sec key method := by
        simp only [Declares, mem_declaredMethods, Entries.get?_eq_some_iff hitems,
          exists_and_left]

lemma lists_unique (hitems : (sec.items source.document).keys.Nodup) {options : Options}
    {key : String} {method : HttpMethod} {op op' : Operation}
    (h : Lists (api source options).value sec key method op)
    (h' : Lists (api source options).value sec key method op') : op = op' := by
  obtain ⟨setting, ledger, -, hgroups⟩ := exists_groups_eq source options sec
  obtain ⟨group, hgroup, hop⟩ := h
  obtain ⟨group', hgroup', hop'⟩ := h'
  rw [hgroups] at hgroup hgroup'
  have hkeys := hitems.sublist (keys_pathItems_sublist setting sec ledger _)
  obtain rfl : group = group' := Option.some.inj
    (((Entries.get?_eq_some_iff hkeys).mpr hgroup).symm.trans
      ((Entries.get?_eq_some_iff hkeys).mpr hgroup'))
  have hmethods := (methods_pathItems setting sec ledger _ group (List.mem_map_of_mem hgroup)).2
  exact Option.some.inj (((Entries.get?_eq_some_iff hmethods).mpr hop).symm.trans
    ((Entries.get?_eq_some_iff hmethods).mpr hop'))

lemma place_of_lists {options : Options} {key : String} {method : HttpMethod} {op : Operation}
    (h : Lists (api source options).value sec key method op) :
    op.path = key ∧ op.method = method := by
  obtain ⟨setting, ledger, -, hgroups⟩ := exists_groups_eq source options sec
  obtain ⟨group, hgroup, hop⟩ := h
  rw [hgroups] at hgroup
  exact ⟨path_pathItems setting sec ledger _ _ hgroup _ hop,
    (methods_pathItems setting sec ledger _ group (List.mem_map_of_mem hgroup)).1 _ hop⟩

/-! ### Conversions -/

/-- Where a path item stands. -/
def itemLocation (sec : Section) (key : String) : String :=
  sec.pointer ++ "/" ++ Pointer.escape key

/-- Where an operation stands. -/
def operationLocation (sec : Section) (key : String) (method : HttpMethod) : String :=
  itemLocation sec key ++ "/" ++ method.lower

/-- The parameters that all operations of a path item share. -/
def sharedParameters (setting : Setting) (sec : Section) (key : String) (item : Spec.PathItem) :
    List Parameter :=
  (parameterList setting item.parameters (itemLocation sec key)).value

lemma mem_operations_iff {item : Spec.PathItem} {method : HttpMethod} {op : Spec.Operation} :
    (method, op) ∈ item.operations ↔ item.operation? method = some op := by
  have hall : method ∈ HttpMethod.all := by cases method <;> decide
  simp [Spec.PathItem.operations, hall]

lemma exists_mem_operations (path : String) (shared : List Parameter) (location : String)
    (ledger : Ledger) {ops : List (HttpMethod × Spec.Operation)} {method : HttpMethod}
    {op : Spec.Operation} (h : (method, op) ∈ ops) : ∃ id,
      let made := operation setting id method path shared op (location ++ "/" ++ method.lower)
      let all := operations setting path shared location ledger ops
      (method, made.value) ∈ all.value.1 ∧ made.diagnostics ⊆ all.diagnostics := by
  induction ops generalizing ledger with
  | nil => cases h
  | cons first rest ih =>
    rcases List.mem_cons.mp h with rfl | h
    · exact ⟨_, List.mem_cons_self, List.subset_append_left _ _⟩
    · obtain ⟨id, hmem, hdiagnostics⟩ := ih _ h
      exact ⟨id, List.mem_cons_of_mem _ hmem, List.subset_append_of_subset_right _ <|
        List.subset_append_of_subset_left _ hdiagnostics⟩

/-- The operations of a path item are among those of its section, and so are its warnings. -/
lemma exists_pathItem_subset (sec : Section) (ledger : Ledger)
    {items : Entries String Spec.PathItem} {key : String} {item : Spec.PathItem}
    (h : (key, item) ∈ items) : ∃ ledger',
      let own := pathItem setting sec ledger' key item
      let all := pathItems setting sec ledger items
      (own.value.1 ≠ [] → (key, own.value.1) ∈ all.value.1)
        ∧ own.diagnostics ⊆ all.diagnostics := by
  induction items generalizing ledger with
  | nil => cases h
  | cons first rest ih =>
    rcases List.mem_cons.mp h with rfl | h
    · refine ⟨ledger, fun hne => List.mem_append_left _ ?_, List.subset_append_left _ _⟩
      rw [if_neg (by simpa using hne)]
      exact List.mem_singleton_self _
    · obtain ⟨ledger', hmem, hdiagnostics⟩ :=
        ih (pathItem setting sec ledger first.1 first.2).value.2 h
      exact ⟨ledger', fun hne => List.mem_append_right _ (hmem hne),
        List.subset_append_of_subset_right _ (List.subset_append_of_subset_left _ hdiagnostics)⟩

/-- A path item whose reference is broken is reported. -/
lemma exists_mem_diagnostics (options : Options) {key : String} {item : Spec.PathItem}
    {e : ReferenceError} (hitem : (key, item) ∈ sec.items source.document)
    (hbroken : resolvedItem (.ofSource source) item = .error e) :
    ⟨itemLocation sec key, "skipping path item: " ++ e.message⟩
      ∈ (api source options).diagnostics := by
  obtain ⟨ledger, -, hdiagnostics⟩ := exists_section source options sec
  obtain ⟨ledger', -, hown⟩ := exists_pathItem_subset (settingOf source options) sec ledger hitem
  refine hdiagnostics (hown ?_)
  have hscope : (settingOf source options).scope = .ofSource source := rfl
  rw [pathItem, hscope, hbroken]
  exact List.mem_singleton_self _

/-- A model has what every operation of a document is turned into, and the warnings that this
raises. -/
lemma exists_lists (options : Options) {key : String} {item declared : Spec.PathItem}
    {method : HttpMethod} {op : Spec.Operation} (hitem : (key, item) ∈ sec.items source.document)
    (hdeclared : resolvedItem (.ofSource source) item = .ok declared)
    (hop : declared.operation? method = some op) : ∃ id,
      let made := operation (settingOf source options) id method key
        (sharedParameters (settingOf source options) sec key declared) op
        (operationLocation sec key method)
      Lists (api source options).value sec key method made.value
        ∧ made.diagnostics ⊆ (api source options).diagnostics := by
  obtain ⟨ledger, hgroups, hdiagnostics⟩ := exists_section source options sec
  obtain ⟨ledger', hmem, hown⟩ :=
    exists_pathItem_subset (settingOf source options) sec ledger hitem
  have hscope : (settingOf source options).scope = .ofSource source := rfl
  rw [pathItem, hscope, hdeclared] at hmem hown
  obtain ⟨id, hmade, hsubset⟩ := exists_mem_operations (settingOf source options) key
    (sharedParameters (settingOf source options) sec key declared) (itemLocation sec key)
    { ledger' with servers := Server.addAll ledger'.servers declared.servers }
    (mem_operations_iff.mpr hop)
  exact ⟨id, ⟨_, hgroups ▸ hmem (List.ne_nil_of_mem hmade), hmade⟩,
    fun d hd => hdiagnostics (hown (List.mem_append_right _ (hsubset hd)))⟩

/-- A model has an operation wherever its document declares one, and nowhere else: exactly one,
which knows where it stands. No two operations have one id, not even across sections. -/
theorem lists_iff_declares_of_run {source : Spec.Source} {options : Options} {r : Reported Api}
    (hsource : source.IsRead) (h : run source options = .ok r) :
    (∀ sec key method,
        ((∃ op, Lists r.value sec key method op) ↔ Declares source sec key method)
          ∧ ∀ op, Lists r.value sec key method op → op.path = key ∧ op.method = method
            ∧ ∀ op', Lists r.value sec key method op' → op = op')
      ∧ ((r.value.operations ++ r.value.webhookOperations).map Operation.id).Nodup := by
  obtain rfl := eq_api_of_run h
  refine ⟨fun sec key method => ?_, nodup_ids source options⟩
  have hitems := nodup_items hsource sec
  refine ⟨exists_lists_iff hitems options key method, fun op hop => ?_⟩
  obtain ⟨hpath, hmethod⟩ := place_of_lists hop
  exact ⟨hpath, hmethod, fun op' hop' => lists_unique hitems hop hop'⟩

/-- A path that refers to another one, a path whose reference is broken, and a webhook that asks for
an id that is taken. -/
def referredPath : Spec.Source where
  tree := .obj [("openapi", .str "3.1.0"),
    ("info", .obj [("title", .str "Pets"), ("version", .str "1")]),
    ("paths", .obj [("/a", .obj [("get", .obj [("operationId", .str "pets")])]),
      ("/b", .obj [("$ref", .str "#/paths/~1a")]), ("/c", .obj [("$ref", .str "#/paths/~1d")])]),
    ("webhooks", .obj [("changed", .obj [("post", .obj [("operationId", .str "pets")])])])]
  document := {
    openapi := "3.1.0", info := ⟨"Pets", "1", none⟩, servers := []
    components := none, security := none
    paths := [("/a", { nothing with get := some pets }),
      ("/b", { nothing with pointer := some "#/paths/~1a" }),
      ("/c", { nothing with pointer := some "#/paths/~1d" })]
    webhooks := [("changed", { nothing with post := some pets })] }
where
  pets : Spec.Operation := ⟨some "pets", none, none, false, [], [], none, [], none, []⟩
  nothing : Spec.PathItem := {
    pointer := none, parameters := [], servers := [], get := none, put := none, post := none
    delete := none, options := none, head := none, patch := none, trace := none }

theorem lists_iff_declares_of_run_referredPath :
    ∃ r, referredPath.IsRead ∧ run referredPath ⟨.declaredId, [], []⟩ = .ok r
      ∧ (r.value.operations ++ r.value.webhookOperations).map Operation.id
        = ["pets", "petsB", "petsChanged"]
      ∧ Declares referredPath .paths "/b" .get ∧ ¬ Declares referredPath .paths "/c" .get
      ∧ (∀ sec key method,
          ((∃ op, Lists r.value sec key method op) ↔ Declares referredPath sec key method)
            ∧ ∀ op, Lists r.value sec key method op → op.path = key ∧ op.method = method
              ∧ ∀ op', Lists r.value sec key method op' → op = op')
        ∧ ((r.value.operations ++ r.value.webhookOperations).map Operation.id).Nodup := by
  have hread : referredPath.IsRead := ⟨referredPath.tree, by decide +kernel, rfl⟩
  have hrun : run referredPath ⟨.declaredId, [], []⟩
      = .ok (api referredPath ⟨.declaredId, [], []⟩) := rfl
  have hids : ((api referredPath ⟨.declaredId, [], []⟩).value.operations
      ++ (api referredPath ⟨.declaredId, [], []⟩).value.webhookOperations).map Operation.id
        = ["pets", "petsB", "petsChanged"] := by decide +kernel
  have hmethods : declaredMethods (.ofSource referredPath)
        { referredPath.nothing with pointer := some "#/paths/~1a" } = [.get]
      ∧ declaredMethods (.ofSource referredPath)
        { referredPath.nothing with pointer := some "#/paths/~1d" } = [] := by decide +kernel
  have hb : Declares referredPath .paths "/b" .get := by
    have hget : HttpMethod.get ∈ declaredMethods (.ofSource referredPath)
        { referredPath.nothing with pointer := some "#/paths/~1a" } := by simp [hmethods.1]
    obtain ⟨declared, hdeclared, hget⟩ := mem_declaredMethods.mp hget
    exact ⟨_, declared, rfl, hdeclared, hget⟩
  have hc : ¬ Declares referredPath .paths "/c" .get := by
    rintro ⟨item, declared, hitem, hdeclared⟩
    obtain rfl : { referredPath.nothing with pointer := some "#/paths/~1d" } = item :=
      Option.some.inj hitem
    have := mem_declaredMethods.mpr ⟨declared, hdeclared⟩
    simp [hmethods.2] at this
  exact ⟨_, hread, hrun, hids, hb, hc, lists_iff_declares_of_run hread hrun⟩

end OpenApiTypes.Normalize
