/-
What a model leaves out of a document, and the warnings that say so.

* `Normalize.Located`: a warning was raised at a location;
* `Normalize.isSome_or_located_responseOrRef?`, `Normalize.isSome_or_located_requestBodyOrRef?`,
  `Normalize.isSome_or_located_parameterOrRef?`: what a step leaves out, it reports;
* `Normalize.Accounts`: an operation of a model has everything that an operation of a document
  declares, but for what warnings say;
* `Normalize.accounts_of_run`: **nothing is left out of an operation without a warning**, nor is a
  path item.
-/
import OpenApiTypes.Proofs.Normalize.Parameters

namespace OpenApiTypes.Normalize

open OpenApiTypes.Model

/-- A warning was raised at a location. -/
def Located (location : String) (ds : List Diagnostic) : Prop := ∃ d ∈ ds, d.location = location

variable {setting : Setting} {location : String} {ds ds' : List Diagnostic}

namespace Located

lemma mono (h : Located location ds) (hsubset : ds ⊆ ds') : Located location ds' := by
  obtain ⟨d, hd, hlocation⟩ := h
  exact ⟨d, hsubset hd, hlocation⟩

lemma append_left (h : Located location ds) (ds' : List Diagnostic) :
    Located location (ds ++ ds') :=
  h.mono (List.subset_append_left _ _)

lemma append_right (h : Located location ds') (ds : List Diagnostic) :
    Located location (ds ++ ds') :=
  h.mono (List.subset_append_right _ _)

lemma fallback {α : Type} (value : α) (location message : String) :
    Located location (Reported.fallback value location message).diagnostics :=
  ⟨_, List.mem_singleton_self _, rfl⟩

end Located

/-! ### Single steps -/

/-- A response that is left out is reported. -/
lemma isSome_or_located_responseOrRef? (setting : Setting) (status : String)
    (r : Spec.RefOr Spec.Response) (location : String) :
    (responseOrRef? setting status r location).value.isSome
      ∨ Located location (responseOrRef? setting status r location).diagnostics := by
  cases r with
  | item r => exact .inl rfl
  | ref pointer =>
    rw [responseOrRef?]
    split
    · exact .inl rfl
    · exact .inr (.fallback _ _ _)

/-- A request body that is left out is reported where it stands. -/
lemma isSome_or_located_requestBody? (setting : Setting) (b : Spec.RequestBody)
    (location : String) :
    (requestBody? setting b location).value.isSome
      ∨ Located location (requestBody? setting b location).diagnostics := by
  rw [requestBody?]
  split
  · exact .inr (.fallback _ _ _)
  · exact .inl rfl

/-- A request body that is left out is reported where it is declared, or where a reference leads. -/
lemma isSome_or_located_requestBodyOrRef? (setting : Setting) (b : Spec.RefOr Spec.RequestBody)
    (location : String) :
    (requestBodyOrRef? setting b location).value.isSome
      ∨ Located location (requestBodyOrRef? setting b location).diagnostics
      ∨ ∃ pointer, b = .ref pointer
        ∧ Located pointer (requestBodyOrRef? setting b location).diagnostics := by
  cases b with
  | item b => exact (isSome_or_located_requestBody? setting b location).imp id .inl
  | ref pointer =>
    rw [requestBodyOrRef?]
    split
    · exact (isSome_or_located_requestBody? setting _ pointer).imp id
        fun h => .inr ⟨pointer, rfl, h⟩
    · exact .inr (.inl (.fallback _ _ _))

/-- An entry of a list of parameters that is left out is reported. -/
lemma isSome_or_located_parameterOrRef? (setting : Setting) (entry : Spec.RefOr Spec.Parameter)
    (location : String) :
    (parameterOrRef? setting entry location).value.isSome
      ∨ Located location (parameterOrRef? setting entry location).diagnostics := by
  cases hresolved : resolvedParameter setting.scope entry with
  | ok declared => rw [parameterOrRef?_of_ok hresolved]; exact .inl rfl
  | error e => rw [parameterOrRef?_of_error hresolved]; exact .inr (.fallback _ _ _)

/-! ### Lists of them -/

/-- Every status that is left out is reported at its response. -/
lemma mem_or_located_responses {status : String} {rs : Entries String (Spec.RefOr Spec.Response)}
    (h : status ∈ rs.keys) : status ∈ (responses setting location rs).value.keys
      ∨ Located (location ++ "/responses/" ++ Pointer.escape status)
        (responses setting location rs).diagnostics := by
  induction rs with
  | nil => cases h
  | cons first rest ih =>
    obtain ⟨key, r⟩ := first
    simp only [responses, Reported.value_bind, Reported.value_pure, Reported.diagnostics_bind,
      Entries.keys, List.map_append, List.mem_append]
    rcases List.mem_cons.mp h with rfl | h
    · refine (isSome_or_located_responseOrRef? setting status r _).imp (fun hsome => .inl ?_)
        fun hlocated => hlocated.append_left _
      obtain ⟨own, hown⟩ := Option.isSome_iff_exists.mp hsome
      simp [hown]
    · exact (ih h).imp .inr fun hlocated => (hlocated.append_left _).append_right _

/-- The statuses that are kept stand in the order in which they are declared. -/
lemma keys_responses_sublist (setting : Setting) (location : String)
    (rs : Entries String (Spec.RefOr Spec.Response)) :
    (responses setting location rs).value.keys.Sublist rs.keys := by
  induction rs with
  | nil => exact .slnil
  | cons first rest ih =>
    obtain ⟨key, r⟩ := first
    simp only [responses, Reported.value_bind, Reported.value_pure, Entries.keys,
      List.map_append]
    cases (responseOrRef? setting key r _).value with
    | none => exact ih.cons _
    | some own => exact ih.cons_cons _

/-- Every entry that is left out of a list of parameters is reported under its number. -/
lemma mem_or_located_parameterList {entries : List (Spec.RefOr Spec.Parameter)} {i : ℕ}
    {entry : Spec.RefOr Spec.Parameter} (h : entries[i]? = some entry) :
    (∃ p ∈ (parameterList setting entries location).value,
        (parameterOrRef? setting entry (location ++ "/parameters/" ++ toString i)).value = some p)
      ∨ Located (location ++ "/parameters/" ++ toString i)
        (parameterList setting entries location).diagnostics := by
  have hmem : (entry, i) ∈ entries.zipIdx := List.mk_mem_zipIdx_iff_getElem?.mpr h
  rw [parameterList_apply]
  rcases isSome_or_located_parameterOrRef? setting entry
      (location ++ "/parameters/" ++ toString i) with hsome | hlocated
  · obtain ⟨p, hp⟩ := Option.isSome_iff_exists.mp hsome
    exact .inl ⟨p, List.mem_filterMap.mpr ⟨_, hmem, hp⟩, hp⟩
  · exact .inr <| hlocated.mono fun d hd => List.mem_flatMap.mpr ⟨_, hmem, hd⟩

/-! ### Operations -/

/-- An operation of a model has everything that an operation of a document declares, but for what
warnings say. -/
structure Accounts (setting : Setting) (location : String) (op : Spec.Operation)
    (made : Operation) (ds : List Diagnostic) : Prop where
  responses : ∀ status ∈ op.responses.keys, status ∈ made.responses.keys
    ∨ Located (location ++ "/responses/" ++ Pointer.escape status) ds
  order : made.responses.keys.Sublist op.responses.keys
  body : ∀ b ∈ op.requestBody, made.body.isSome ∨ Located (location ++ "/requestBody") ds
    ∨ ∃ pointer, b = .ref pointer ∧ Located pointer ds
  parameters : ∀ (i : ℕ) entry, op.parameters[i]? = some entry →
    (∃ p, (parameterOrRef? setting entry (location ++ "/parameters/" ++ toString i)).value = some p
      ∧ ((made.parameters.at_ p.place).get? p.name).isSome)
    ∨ Located (location ++ "/parameters/" ++ toString i) ds

lemma Accounts.mono {op : Spec.Operation} {made : Operation}
    (h : Accounts setting location op made ds) (hsubset : ds ⊆ ds') :
    Accounts setting location op made ds' where
  responses status hstatus := (h.responses status hstatus).imp id fun h => h.mono hsubset
  order := h.order
  body b hb := (h.body b hb).imp_right fun h => h.imp (fun h => h.mono hsubset)
    fun ⟨pointer, hb, h⟩ => ⟨pointer, hb, h.mono hsubset⟩
  parameters i entry hentry := (h.parameters i entry hentry).imp id fun h => h.mono hsubset

/-- An operation that is made of one of a document has whatever it declares, but for what the
warnings that this raises say. -/
lemma accounts_operation (setting : Setting) (id : String) (method : HttpMethod) (path : String)
    (shared : List Parameter) (op : Spec.Operation) (location : String) :
    let made := operation setting id method path shared op location
    Accounts setting location op made.value made.diagnostics where
  responses status hstatus := (mem_or_located_responses hstatus).imp_right fun h =>
    ((h.append_left _).append_right _).append_right _
  order := keys_responses_sublist _ _ _
  body b hb := by
    have hbody : operationBody? setting op location
        = requestBodyOrRef? setting b (location ++ "/requestBody") := by
      rw [operationBody?, Option.mem_def.mp hb]
    have hmade : (operation setting id method path shared op location).value.body
        = (operationBody? setting op location).value := rfl
    have hdiagnostics : (operationBody? setting op location).diagnostics
        ⊆ (operation setting id method path shared op location).diagnostics :=
      List.subset_append_of_subset_right _ (List.subset_append_left _ _)
    rw [hmade, hbody]
    rw [hbody] at hdiagnostics
    exact (isSome_or_located_requestBodyOrRef? setting b _).imp_right fun h => h.imp
      (fun h => h.mono hdiagnostics) fun ⟨pointer, hb, h⟩ => ⟨pointer, hb, h.mono hdiagnostics⟩
  parameters i entry hentry := by
    refine (mem_or_located_parameterList hentry).imp (fun ⟨p, hmem, hp⟩ => ⟨p, hp, ?_⟩)
      fun h => h.append_left _
    exact ((Parameters.Merges.ofList shared _).isSome_iff p.place p.name).mpr
      ⟨p, List.mem_append_right _ hmem, rfl, rfl⟩

/-- A path item whose reference is broken is reported. Every operation of any other one is an
operation of the model, which has all its responses, its body and its parameters, but for what
warnings at these say. The responses stand in the order of the document. -/
theorem accounts_of_run {source : Spec.Source} {options : Options} {r : Reported Api}
    {sec : Section} {key : String} {item : Spec.PathItem} (hsource : source.IsRead)
    (h : run source options = .ok r) (hitem : (key, item) ∈ sec.items source.document) :
    (∀ e, resolvedItem (.ofSource source) item = .error e →
        Located (itemLocation sec key) r.diagnostics)
      ∧ ∀ declared method op, resolvedItem (.ofSource source) item = .ok declared →
        declared.operation? method = some op →
          ∃ made, Lists r.value sec key method made
            ∧ (∀ made', Lists r.value sec key method made' → made = made')
            ∧ Accounts (settingOf source options) (operationLocation sec key method) op made
              r.diagnostics := by
  obtain rfl := eq_api_of_run h
  refine ⟨fun e he => ⟨_, exists_mem_diagnostics options hitem he, rfl⟩,
    fun declared method op hdeclared hop => ?_⟩
  obtain ⟨id, hlists, hdiagnostics⟩ := exists_lists options hitem hdeclared hop
  exact ⟨_, hlists, fun made' => lists_unique (nodup_items hsource sec) hlists,
    (accounts_operation _ _ _ _ _ _ _).mono hdiagnostics⟩

/-- An operation with one broken reference of each kind and a body without content, and a path whose
reference is broken. -/
def broken : Spec.Source where
  tree := .obj [("openapi", .str "3.1.0"),
    ("info", .obj [("title", .str "Pets"), ("version", .str "1")]),
    ("components", .obj [("requestBodies", .obj [("Empty", .obj [("content", .obj [])])])]),
    ("paths", .obj [("/pets", .obj [("post", .obj [
        ("parameters", .arr [.obj [("name", .str "page"), ("in", .str "query")],
          .obj [("$ref", .str "#/paths/~1cats/parameters/0")]]),
        ("requestBody", .obj [("$ref", .str "#/components/requestBodies/Empty")]),
        ("responses", .obj [("default", .obj []),
          ("4XX", .obj [("$ref", .str "#/components/responses/Missing")]), ("204", .obj [])])])]),
      ("/cats", .obj [("$ref", .str "#/paths/~1dogs")])])]
  document := {
    openapi := "3.1.0", info := ⟨"Pets", "1", none⟩, servers := [], webhooks := []
    paths := [("/pets", { nothing with post := some add }),
      ("/cats", { nothing with pointer := some "#/paths/~1dogs" })]
    components := some { requestBodies := [("Empty", .item ⟨none, [], false⟩)] }
    security := none }
where
  nothing : Spec.PathItem := {
    pointer := none, parameters := [], servers := [], get := none, put := none, post := none
    delete := none, options := none, head := none, patch := none, trace := none }
  add : Spec.Operation := ⟨none, none, none, false, [],
    [.item ⟨"page", .query, none, false, false, none, [], none, none, false⟩,
      .ref "#/paths/~1cats/parameters/0"],
    some (.ref "#/components/requestBodies/Empty"),
    [("default", .item ⟨"", []⟩), ("4XX", .ref "#/components/responses/Missing"),
      ("204", .item ⟨"", []⟩)], none, []⟩

/-- Everything that is missing is reported. -/
theorem accounts_of_run_broken : ∃ r made,
    broken.IsRead ∧ run broken ⟨.declaredId, [], []⟩ = .ok r
      ∧ Located "#/paths/~1cats" r.diagnostics ∧ Lists r.value .paths "/pets" .post made
      ∧ Accounts (settingOf broken ⟨.declaredId, [], []⟩) "#/paths/~1pets/post" broken.add made
        r.diagnostics
      ∧ r.value.operations.map (fun op => (op.responses.keys, op.body.isSome,
          op.parameters.query.keys)) = [(["default", "204"], false, ["page"])]
      ∧ r.diagnostics.map Diagnostic.location = ["#/components/requestBodies/Empty",
        "#/paths/~1pets/post/parameters/1", "#/components/requestBodies/Empty",
        "#/paths/~1pets/post/responses/4XX", "#/paths/~1cats"] := by
  have hread : broken.IsRead := ⟨broken.tree, by decide +kernel, rfl⟩
  have hrun : run broken ⟨.declaredId, [], []⟩ = .ok (api broken ⟨.declaredId, [], []⟩) := rfl
  have hdangling : (resolvedItem (.ofSource broken)
      { broken.nothing with pointer := some "#/paths/~1dogs" }).toOption.isNone = true := by
    decide +kernel
  have hlocation : operationLocation .paths "/pets" .post = "#/paths/~1pets/post" := by
    decide +kernel
  have hpets : ("/pets", { broken.nothing with post := some broken.add })
      ∈ Section.paths.items broken.document := List.mem_cons_self
  have hcats : ("/cats", { broken.nothing with pointer := some "#/paths/~1dogs" })
      ∈ Section.paths.items broken.document := List.mem_cons_of_mem _ List.mem_cons_self
  obtain ⟨made, hlists, -, haccounts⟩ :=
    (accounts_of_run hread hrun hpets).2 _ .post broken.add rfl rfl
  refine ⟨_, made, hread, hrun, ?_, hlists, hlocation ▸ haccounts, by decide +kernel,
    by decide +kernel⟩
  cases he : resolvedItem (.ofSource broken)
      { broken.nothing with pointer := some "#/paths/~1dogs" } with
  | ok declared => simp [he, Except.toOption] at hdangling
  | error e =>
    have hlocated := (accounts_of_run hread hrun hcats).1 e he
    have hlocation : itemLocation .paths "/cats" = "#/paths/~1cats" := by decide +kernel
    exact hlocation ▸ hlocated

end OpenApiTypes.Normalize
