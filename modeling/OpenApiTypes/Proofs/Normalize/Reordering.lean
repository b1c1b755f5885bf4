/-
The order of components does not matter.

* `Normalize.Scope.Agrees`, `Normalize.position_eq`: scopes in which the same pointers lead to the
  same give the same schemas;
* `Normalize.Setting.Agrees`, `Normalize.pathItems_eq`: and settings that agree the same operations;
* `Normalize.collect_perm`: components in another order give the same in that order;
* `Normalize.agree_run_of_reordered`: documents that differ only in the order of components have the
  same model but for this order, with the same operations.
-/
import OpenApiTypes.Proofs.Model.Paging
import OpenApiTypes.Proofs.Normalize.Operations
import OpenApiTypes.Proofs.Spec.Nodes

namespace OpenApiTypes.Normalize

open OpenApiTypes.Model

/-! ### Schemas -/

/-- Scopes with the same components and pointers, in which a pointer leads to the same schema. -/
structure Scope.Agrees (scope scope' : Scope) : Prop where
  target : target scope = target scope'
  components : ∀ name, name ∈ scope.components ↔ name ∈ scope'.components
  pointers : ∀ p, p ∈ scope.pointers ↔ p ∈ scope'.pointers

variable {scope scope' : Scope}

lemma Scope.Agrees.contains (h : scope.Agrees scope') (name : String) :
    scope.components.contains name = scope'.components.contains name := by
  rw [Bool.eq_iff_iff, List.contains_iff_mem, List.contains_iff_mem, h.components]

lemma Scope.Agrees.remaining (h : scope.Agrees scope') (p : String) :
    p ∈ (Inlining.initial scope).remaining ↔ p ∈ (Inlining.initial scope').remaining :=
  h.pointers p

mutual

/-- Schemas are converted alike, if the same pointers may still be inlined. -/
theorem position_eq (h : scope.Agrees scope') {inlining inlining' : Inlining}
    (hremaining : ∀ p, p ∈ inlining.remaining ↔ p ∈ inlining'.remaining)
    (p : Spec.Position Spec.Schema) (location : String) :
    position scope inlining p location = position scope' inlining' p location := by
  match p with
  | .bool true => rw [position, position]
  | .bool false => rw [position, position]
  | .ref pointer =>
    rw [position, position]
    cases Pointer.schemaName? pointer with
    | some name => simp only [h.contains]
    | none =>
      dsimp only
      by_cases hpointer : pointer ∈ inlining.remaining
      · rw [dif_pos hpointer, dif_pos ((hremaining pointer).mp hpointer), ← h.target]
        cases target scope pointer with
        | error e => rfl
        | ok next =>
          exact position_eq h (Reference.mem_without_congr hremaining pointer) next pointer
      · rw [dif_neg hpointer, dif_neg fun hmem => hpointer ((hremaining pointer).mpr hmem)]
  | .inline s =>
    rw [position, position, properties_eq h hremaining s.properties,
      optional_eq h hremaining s.additionalProperties, optional_eq h hremaining s.items,
      positions_eq h hremaining s.prefixItems, positions_eq h hremaining s.allOf,
      positions_eq h hremaining s.oneOf, positions_eq h hremaining s.anyOf]
termination_by (inlining.remaining.length, sizeOf p)
decreasing_by
  · exact Prod.Lex.left _ _ (Reference.length_without_lt ‹_›)
  all_goals
    refine Prod.Lex.right _ ?_
    simp only [Spec.Position.inline.sizeOf_spec]
  · have := sizeOf_properties_lt s; omega
  · have := sizeOf_additionalProperties_lt s; omega
  · have := sizeOf_items_lt s; omega
  · have := sizeOf_prefixItems_lt s; omega
  · have := sizeOf_allOf_lt s; omega
  · have := sizeOf_oneOf_lt s; omega
  · have := sizeOf_anyOf_lt s; omega

theorem positions_eq (h : scope.Agrees scope') {inlining inlining' : Inlining}
    (hremaining : ∀ p, p ∈ inlining.remaining ↔ p ∈ inlining'.remaining)
    (ps : List (Spec.Position Spec.Schema)) (location : String) (index : Nat) :
    positions scope inlining ps location index = positions scope' inlining' ps location index := by
  match ps with
  | [] => rw [positions, positions]
  | p :: rest =>
    rw [positions, positions, position_eq h hremaining p, positions_eq h hremaining rest]
termination_by (inlining.remaining.length, sizeOf ps)

theorem properties_eq (h : scope.Agrees scope') {inlining inlining' : Inlining}
    (hremaining : ∀ p, p ∈ inlining.remaining ↔ p ∈ inlining'.remaining)
    (ps : List (String × Spec.Position Spec.Schema)) (location : String) :
    properties scope inlining ps location = properties scope' inlining' ps location := by
  match ps with
  | [] => rw [properties, properties]
  | (name, p) :: rest =>
    rw [properties, properties, position_eq h hremaining p, properties_eq h hremaining rest]
termination_by (inlining.remaining.length, sizeOf ps)

theorem optional_eq (h : scope.Agrees scope') {inlining inlining' : Inlining}
    (hremaining : ∀ p, p ∈ inlining.remaining ↔ p ∈ inlining'.remaining)
    (p : Option (Spec.Position Spec.Schema)) (location : String) :
    optional scope inlining p location = optional scope' inlining' p location := by
  match p with
  | none => rw [optional, optional]
  | some p => rw [optional, optional, position_eq h hremaining p]
termination_by (inlining.remaining.length, sizeOf p)

end

lemma componentSchemas_eq (h : scope.Agrees scope') :
    componentSchemas scope = componentSchemas scope' := by
  funext ps
  induction ps with
  | nil => rfl
  | cons p rest ih =>
    obtain ⟨name, p⟩ := p
    rw [componentSchemas, componentSchemas, ih, position_eq h h.remaining]

/-! ### Operations -/

/-- Settings in which schemas are converted, references are read and paging fields are found
alike. -/
structure Setting.Agrees (setting setting' : Setting) : Prop where
  options : setting.options = setting'.options
  schemes : setting.schemes = setting'.schemes
  security : setting.security = setting'.security
  schema : setting.schema = setting'.schema
  read : ∀ {α : Type} {read? : Json → Option α},
    (∀ v w, Spec.Interchangeable v w → read? v = read? w) →
    Reference.read read? setting.scope.tree = Reference.read read? setting'.scope.tree
  pagingOfBody : pagingOfBody? setting.catalog = pagingOfBody? setting'.catalog
  pagingOfParameter : pagingOfParameter? setting.catalog = pagingOfParameter? setting'.catalog

variable {setting setting' : Setting}

section

variable (h : setting.Agrees setting')

include h

lemma entrySchema_eq : setting.entrySchema = setting'.entrySchema := by
  funext mediaType p location
  rw [Setting.entrySchema, Setting.entrySchema, h.schema]

lemma parameter_eq : parameter setting = parameter setting' := by
  funext p location
  simp only [parameter, parameterSchema, h.schema, entrySchema_eq h, h.options,
    h.pagingOfParameter]

lemma parameterOrRef?_eq : parameterOrRef? setting = parameterOrRef? setting' := by
  funext p location
  cases p <;> simp only [parameterOrRef?, parameter_eq h, h.read fun _ _ hvw => hvw.parameter]

lemma parameterList_eq : parameterList setting = parameterList setting' := by
  have hfrom : ∀ location index ps, parameterListFrom setting location index ps
      = parameterListFrom setting' location index ps := by
    intro location index ps
    induction ps generalizing index with
    | nil => rfl
    | cons p rest ih => rw [parameterListFrom, parameterListFrom, parameterOrRef?_eq h, ih]
  funext ps location
  rw [parameterList, parameterList, hfrom]

lemma contentSchema_eq : contentSchema setting = contentSchema setting' := by
  funext selected location
  rw [contentSchema, contentSchema, entrySchema_eq h]

lemma requestBody?_eq : requestBody? setting = requestBody? setting' := by
  funext b location
  simp only [requestBody?, contentSchema_eq h, h.options, h.pagingOfBody]

lemma requestBodyOrRef?_eq : requestBodyOrRef? setting = requestBodyOrRef? setting' := by
  funext b location
  cases b <;>
    simp only [requestBodyOrRef?, requestBody?_eq h, h.read fun _ _ hvw => hvw.requestBody]

lemma responseOrRef?_eq : responseOrRef? setting = responseOrRef? setting' := by
  funext status r location
  cases r <;> simp only [responseOrRef?, response, contentSchema_eq h,
    h.read fun _ _ hvw => hvw.response]

lemma responses_eq : responses setting = responses setting' := by
  funext location rs
  induction rs with
  | nil => rfl
  | cons r rest ih =>
    obtain ⟨status, r⟩ := r
    rw [responses, responses, responseOrRef?_eq h, ih]

/-- Operations are converted alike. -/
lemma operation_eq : operation setting = operation setting' := by
  funext id method path shared op location
  simp only [operation, operationBody?, parameterList_eq h, requestBodyOrRef?_eq h, responses_eq h,
    h.schemes, h.security]

lemma operations_eq : operations setting = operations setting' := by
  funext path shared location ledger ops
  induction ops generalizing ledger with
  | nil => rfl
  | cons op rest ih =>
    obtain ⟨method, op⟩ := op
    simp only [operations, h.options, operation_eq h, ih]

lemma pathItem_eq : pathItem setting = pathItem setting' := by
  funext sec ledger key item
  have hitem : resolvedItem setting.scope item = resolvedItem setting'.scope item := by
    simp only [resolvedItem, h.read fun _ _ hvw => hvw.pathItem]
  simp only [pathItem, hitem, parameterList_eq h, operations_eq h]

lemma pathItems_eq : pathItems setting = pathItems setting' := by
  funext sec ledger items
  induction items generalizing ledger with
  | nil => rfl
  | cons p rest ih =>
    obtain ⟨key, item⟩ := p
    simp only [pathItems, pathItem_eq h, ih]

lemma componentParameters_eq : componentParameters setting = componentParameters setting' := by
  funext ps
  induction ps with
  | nil => rfl
  | cons p rest ih =>
    obtain ⟨name, p⟩ := p
    rw [componentParameters, componentParameters, parameterOrRef?_eq h, ih]

lemma componentBodies_eq : componentBodies setting = componentBodies setting' := by
  funext bs
  induction bs with
  | nil => rfl
  | cons b rest ih =>
    obtain ⟨name, b⟩ := b
    rw [componentBodies, componentBodies, requestBodyOrRef?_eq h, ih]

end

/-! ### Components in another order -/

section

variable {α β : Type} (collect : List α → Reported (List β)) (convert : α → Reported (List β))
  (hnil : collect [] = pure [])
  (hcons : ∀ a rest, collect (a :: rest) = do return (← convert a) ++ (← collect rest))

include hnil hcons

lemma collect_eq (as : List α) : collect as
    = ⟨as.flatMap fun a => (convert a).value, as.flatMap fun a => (convert a).diagnostics⟩ := by
  induction as with
  | nil => exact hnil
  | cons a rest ih => simp [hcons, ih, bind, pure]

/-- Things that are converted one by one, in any order. -/
lemma collect_perm {as bs : List α} (h : as.Perm bs) :
    (collect as).value.Perm (collect bs).value
      ∧ (collect as).diagnostics.Perm (collect bs).diagnostics := by
  rw [collect_eq collect convert hnil hcons, collect_eq collect convert hnil hcons]
  exact ⟨h.flatMap_right _, h.flatMap_right _⟩

end

lemma componentSchemas_perm (h : scope.Agrees scope')
    {ps qs : Entries String (Spec.Position Spec.Schema)} (hperm : ps.Perm qs) :
    (componentSchemas scope ps).value.Perm (componentSchemas scope' qs).value
      ∧ (componentSchemas scope ps).diagnostics.Perm (componentSchemas scope' qs).diagnostics := by
  rw [componentSchemas_eq h]
  exact collect_perm (componentSchemas scope') (fun p => do
    return [(p.1, ← position scope' (.initial scope') p.2 (Pointer.schema p.1))]) rfl
    (fun _ _ => by simp [componentSchemas]) hperm

lemma componentParameters_perm (h : setting.Agrees setting')
    {ps qs : Entries String (Spec.RefOr Spec.Parameter)} (hperm : ps.Perm qs) :
    (componentParameters setting ps).value.Perm (componentParameters setting' qs).value
      ∧ (componentParameters setting ps).diagnostics.Perm
        (componentParameters setting' qs).diagnostics := by
  rw [componentParameters_eq h]
  exact collect_perm (componentParameters setting') (fun p => do
    let own ← parameterOrRef? setting' p.2 ("#/components/parameters/" ++ Pointer.escape p.1)
    return own.toList.map fun own => (p.1, own)) rfl
    (fun _ _ => by simp [componentParameters]) hperm

lemma componentBodies_perm (h : setting.Agrees setting')
    {bs cs : Entries String (Spec.RefOr Spec.RequestBody)} (hperm : bs.Perm cs) :
    (componentBodies setting bs).value.Perm (componentBodies setting' cs).value
      ∧ (componentBodies setting bs).diagnostics.Perm
        (componentBodies setting' cs).diagnostics := by
  rw [componentBodies_eq h]
  exact collect_perm (componentBodies setting') (fun b => do
    let own ← requestBodyOrRef? setting' b.2 ("#/components/requestBodies/" ++ Pointer.escape b.1)
    return own.toList.map fun own => (b.1, own)) rfl
    (fun _ _ => by simp [componentBodies]) hperm

/-! ### Documents -/

/-- Models that are the same but for the order of components. -/
structure SameModel (a b : Api) : Prop where
  info : a.info = b.info
  servers : a.servers = b.servers
  paths : a.paths = b.paths
  webhooks : a.webhooks = b.webhooks
  schemas : a.components.schemas.Perm b.components.schemas
  parameters : a.components.parameters.Perm b.components.parameters
  bodies : a.components.bodies.Perm b.components.bodies

section

variable {source source' : Spec.Source} (h : source.Reordered source')

include h

lemma scope_agrees : (Scope.ofSource source).Agrees (.ofSource source') where
  target := by
    funext pointer
    refine (Agree.bind (Spec.agree_resolve_of_reordered h pointer) fun v w hvw => ?_).eq
    rw [hvw.position]
    cases Spec.Position.ofJson? w with
    | none => exact .error _
    | some p => exact .ok rfl
  components _ := (h.document.components.schemas.map Prod.fst).mem_iff
  pointers p := h.tree.mem_allPointers h.distinctKeys p

lemma setting_agrees (options : Options) :
    (settingOf source options).Agrees (settingOf source' options) := by
  have hscope := scope_agrees h
  have hcatalog := (componentSchemas_perm hscope h.document.components.schemas).1
  have hnodup : (settingOf source options).catalog.keys.Nodup := by
    rw [settingOf, keys_componentSchemas]
    exact (Spec.Document.nodup_of_ofJson? h.distinctKeys h.read).2.2
  exact {
    options := rfl
    schemes := congrArg (fun schemes => (securitySchemes schemes).value)
      h.document.components.securitySchemes
    security := h.document.security
    schema := by
      funext p location
      exact position_eq hscope hscope.remaining p location
    read := fun hr => funext fun pointer => Spec.read_eq_of_reordered h pointer hr
    pagingOfBody := by
      funext keywords s
      exact pagingOfBody?_eq_of_perm hcatalog hnodup keywords s
    pagingOfParameter := by
      funext keywords name s
      exact pagingOfParameter?_eq_of_perm hcatalog hnodup keywords name s }

/-- Their models are the same but for the order of components, and so are the warnings but for
theirs. -/
theorem api_of_reordered (options : Options) :
    SameModel (api source options).value (api source' options).value
      ∧ (api source options).diagnostics.Perm (api source' options).diagnostics := by
  have hsetting := setting_agrees h options
  have hschemas := componentSchemas_perm (scope_agrees h) h.document.components.schemas
  have hparameters := componentParameters_perm hsetting h.document.components.parameters
  have hbodies := componentBodies_perm hsetting h.document.components.requestBodies
  have hschemes := congrArg securitySchemes h.document.components.securitySchemes
  have hpaths : pathItems (settingOf source options) .paths
        ⟨Server.addAll [] source.document.servers, []⟩ source.document.paths
      = pathItems (settingOf source' options) .paths
        ⟨Server.addAll [] source'.document.servers, []⟩ source'.document.paths := by
    rw [pathItems_eq hsetting, h.document.servers, h.document.paths]
  have hwebhooks : pathItems (settingOf source options) .webhooks
        (pathItems (settingOf source options) .paths
          ⟨Server.addAll [] source.document.servers, []⟩ source.document.paths).value.2
        source.document.webhooks
      = pathItems (settingOf source' options) .webhooks
        (pathItems (settingOf source' options) .paths
          ⟨Server.addAll [] source'.document.servers, []⟩ source'.document.paths).value.2
        source'.document.webhooks := by
    rw [hpaths, pathItems_eq hsetting, h.document.webhooks]
  refine ⟨⟨?_, congrArg (·.value.2.servers) hwebhooks, congrArg (·.value.1) hpaths,
    congrArg (·.value.1) hwebhooks, hschemas.1, hparameters.1, hbodies.1⟩, ?_⟩
  · exact congrArg (fun info : Spec.Info => (⟨info.title, info.description, info.version⟩ : Info))
      h.document.info
  · refine (List.Perm.of_eq (congrArg (·.diagnostics) hschemes)).append (hschemas.2.append
      (hparameters.2.append (hbodies.2.append (List.Perm.append ?_ (List.Perm.append ?_ .nil)))))
    · exact .of_eq (congrArg (·.diagnostics) hpaths)
    · exact .of_eq (congrArg (·.diagnostics) hwebhooks)

end

/-- The order of components does not matter: of two trees that differ at most in this order, the
second one holds a document if the first one does, and under the same options both have a model, or
none. The models have the same paths and webhooks, and the same components but for the order. -/
theorem agree_run_of_reordered {tree tree' : Json} {source : Spec.Source}
    (htree : tree.DistinctKeys) (hsource : Spec.Source.ofTree tree = .ok source)
    (h : Spec.Document.Reordered tree tree') :
    ∃ source', Spec.Source.ofTree tree' = .ok source' ∧ ∀ options,
      Agree (fun r r' => SameModel r.value r'.value ∧ r.diagnostics.Perm r'.diagnostics)
        (run source options) (run source' options) := by
  obtain ⟨source', hsource', h⟩ := Spec.Source.exists_reordered htree hsource h
  refine ⟨source', hsource', fun options => ?_⟩
  unfold run
  cases blankAlias? options.aliases with
  | some name => exact .error name
  | none => exact .ok (api_of_reordered h options)

/-- A document with an operation whose body is the first one of certain component bodies. -/
def storeDocument (bodies : Entries String Json) : Json :=
  .obj [("openapi", .str "3.1.0"),
    ("info", .obj [("title", .str "Pets"), ("version", .str "1")]),
    ("paths", .obj [("/pets", .obj [("post", .obj [
      ("requestBody", .obj [("$ref", .str "#/components/requestBodies/Pet")])])])]),
    ("components", .obj [("requestBodies", .obj bodies)])]

/-- A component body that is another one. -/
def storeBodies : Entries String Json :=
  [("Pet", .obj [("$ref", .str "#/components/requestBodies/Text")]),
    ("Text", .obj [("content", .obj [("text/plain", .obj [])])])]

lemma reordered_storeDocument :
    Spec.Document.Reordered (storeDocument storeBodies) (storeDocument storeBodies.reverse) :=
  .object (.cons ⟨rfl, .inl rfl⟩ (.cons ⟨rfl, .inl rfl⟩ (.cons ⟨rfl, .inl rfl⟩ (.cons
    ⟨rfl, .inr ⟨by decide, .object (.cons
      ⟨rfl, .inr ⟨by decide, .members (List.reverse_perm _).symm⟩⟩ .nil)⟩⟩ .nil))))

theorem agree_run_of_reordered_storeDocument :
    (storeDocument storeBodies).DistinctKeys
      ∧ Spec.Document.Reordered (storeDocument storeBodies) (storeDocument storeBodies.reverse)
      ∧ ∃ source, Spec.Source.ofTree (storeDocument storeBodies) = .ok source
        ∧ ∃ source', Spec.Source.ofTree (storeDocument storeBodies.reverse) = .ok source'
          ∧ ∀ options, Agree
            (fun r r' => SameModel r.value r'.value ∧ r.diagnostics.Perm r'.diagnostics)
            (run source options) (run source' options) := by
  have hdistinct : (storeDocument storeBodies).DistinctKeys := by decide +kernel
  have hread : (Spec.Document.ofJson? (storeDocument storeBodies)).isSome := by decide +kernel
  obtain ⟨document, hdocument⟩ := Option.isSome_iff_exists.mp hread
  have hsource : Spec.Source.ofTree (storeDocument storeBodies) = .ok ⟨_, document⟩ :=
    Spec.Source.ofTree_eq_ok_iff.mpr ⟨⟨"3.1.0", rfl, by decide +kernel⟩, hdocument, rfl⟩
  exact ⟨hdistinct, reordered_storeDocument, _, hsource,
    agree_run_of_reordered hdistinct hsource reordered_storeDocument⟩

end OpenApiTypes.Normalize
