/-
The file of types of a document.

* `Types.closed_of_session`: whatever a file of types mentions, it exports exactly once, and no
  name in it is declared twice.
-/
import OpenApiTypes.Proofs.Transformers.Frame
import OpenApiTypes.Proofs.Types.Closed
import OpenApiTypes.Proofs.Types.Enumerations

namespace OpenApiTypes.Types

open OpenApiTypes.Generation (Pipeline Session)
open OpenApiTypes.Model
open OpenApiTypes.TypeScript (Closed)

/-- The schemas of all entries of the model of a document refer to its components only. -/
lemma eventRefersOnlyTo_of_mem (source : Spec.Source) (options : Normalize.Options) :
    ∀ e ∈ typeEvents (Normalize.api source options).value,
      EventRefersOnlyTo (Normalize.api source options).value.catalog.keys e := by
  intro e he
  set api := (Normalize.api source options).value
  have hroots := Normalize.refersOnlyTo_of_mem_roots source options
  have hoperation : ∀ op ∈ api.operations ++ api.webhookOperations,
      RootsReferOnlyTo api.catalog.keys op := by
    intro op hop s hs
    refine hroots s ?_
    simp only [Api.roots, List.mem_append, List.mem_flatMap]
    exact .inr ⟨op, List.mem_append.mp hop, hs⟩
  rw [typeEvents_eq] at he
  rcases List.mem_append.mp he with he | he
  · rcases List.mem_append.mp he with he | he
    · obtain ⟨component, hcomponent, rfl⟩ := List.mem_map.mp he
      refine hroots component.2 ?_
      simp only [Api.roots, List.mem_append]
      exact .inl (.inl (.inl (List.mem_map_of_mem hcomponent)))
    · obtain ⟨op, hop, rfl⟩ := List.mem_map.mp he
      exact hoperation op (List.mem_append_left _ hop)
  · obtain ⟨group, hgroup, he⟩ := List.mem_flatMap.mp he
    obtain ⟨op, hop, rfl⟩ := List.mem_map.mp he
    exact hoperation op (List.mem_append_right _
      (List.mem_flatMap.mpr ⟨group.2, List.mem_map_of_mem hgroup, hop⟩))

/-- The constants of a file of types belong to different components. -/
lemma nodup_constantPointers {source : Spec.Source} (h : source.IsRead)
    (options : Normalize.Options) (o : Config.TypesOptions) :
    ((typeEvents (Normalize.api source options).value).flatMap (constantPointers o)).Nodup := by
  set api := (Normalize.api source options).value
  have hconstants : (typeEvents api).flatMap (constantPointers o)
      = (api.catalog.filter fun x => o.enums && x.2.hasShape .enum).map
        fun x => Pointer.schema x.1 := by
    have hnone : ∀ l : List Generation.Event, (∀ e ∈ l, declaredConstants o e = []) →
        l.flatMap (constantPointers o) = [] := fun l hl =>
      List.flatMap_eq_nil_iff.mpr fun e he => by simp [constantPointers, hl e he]
    rw [typeEvents_eq, List.flatMap_append, List.flatMap_append,
      hnone (api.operations.map _) (by simp [declaredConstants]),
      hnone (api.webhooks.flatMap _) (by
        intro e he
        obtain ⟨group, -, he⟩ := List.mem_flatMap.mp he
        obtain ⟨op, -, rfl⟩ := List.mem_map.mp he
        rfl), List.append_nil, List.append_nil, List.flatMap_map]
    induction api.catalog with
    | nil => rfl
    | cons component rest ih =>
      obtain ⟨name, s⟩ := component
      rw [List.flatMap_cons, ih, List.filter_cons, constantPointers, declaredConstants]
      split <;> simp_all
  have hkeys : (api.catalog.map fun x => Pointer.schema x.1).Nodup := by
    have := (Normalize.nodup_catalog h options).map Pointer.schema_injective
    simpa [Entries.keys, Function.comp_def] using this
  rw [hconstants]
  exact hkeys.sublist (List.filter_sublist.map _)

/-- The types of a file of types belong to different references. -/
lemma nodup_typePointers {source : Spec.Source} (h : source.IsRead) (options : Normalize.Options) :
    ((typeEvents (Normalize.api source options).value).flatMap typePointers).Nodup := by
  have hpointers := (nodup_declaredTypes h options).map Declared.pointer_injective
  rwa [List.map_flatMap] at hpointers

/-- A file of types is closed if the entries of its model refer to components only, and no two of
them give the same type or the same constant. -/
lemma closed_of_nodup {api : Api} {config : Config} {p : Pipeline} {σ : Session}
    {file : Output.File}
    (hrefer : ∀ e ∈ typeEvents api, EventRefersOnlyTo api.catalog.keys e)
    (htypes : ((typeEvents api).flatMap typePointers).Nodup)
    (hconstants : ∀ o, ((typeEvents api).flatMap (constantPointers o)).Nodup)
    (hp : Pipeline.ofConfig config = .ok p) (hσ : p.session ⟨api, config⟩ = .ok σ)
    (hfile : σ.files.get? fileId = some file) : Closed file.nodes := by
  obtain ⟨o, ho⟩ := Generation.exists_types_mem hp hσ hfile
  obtain ⟨σ₁, hrun, hsame, -⟩ := Transformers.types_run_of_mem hp hσ ho
  exact (progress_run hrefer hrun).closed htypes (hconstants o) (fun n => schema_mem_typePointers)
    (hsame.symm.trans hfile)

/-- The file of types of a document is closed: under every configuration, it exports exactly once
whatever it mentions, and declares no name twice, whatever capitals it has. -/
theorem closed_of_session {source : Spec.Source} {options : Normalize.Options}
    {r : Reported Api} {config : Config} {p : Pipeline} {σ : Session} {file : Output.File}
    (hsource : source.IsRead) (hmodel : Normalize.run source options = .ok r)
    (hp : Pipeline.ofConfig config = .ok p) (hσ : p.session ⟨r.value, config⟩ = .ok σ)
    (hfile : σ.files.get? fileId = some file) : Closed file.nodes := by
  have hr := Normalize.eq_api_of_run hmodel
  rw [hr] at hσ
  exact closed_of_nodup (eventRefersOnlyTo_of_mem source options)
    (nodup_typePointers hsource options) (nodup_constantPointers hsource options) hp hσ hfile

/-- Two operations whose ids differ in capitals only, an enumeration, and a component that refers to
it. -/
def similarIds : Spec.Source where
  tree := .obj [("openapi", .str "3.1.0"),
    ("info", .obj [("title", .str "Pets"), ("version", .str "1")]),
    ("paths", .obj [("/pets", .obj [("get", .obj [("operationId", .str "aB")]),
      ("head", .obj [("operationId", .str "ab")])])]),
    ("components", .obj [("schemas", nodes)])]
  document := {
    openapi := "3.1.0", info := ⟨"Pets", "1", none⟩, servers := [], webhooks := []
    components := some { schemas }, security := none
    paths := [("/pets", {
      pointer := none, parameters := [], servers := []
      get := some (operation "aB"), head := some (operation "ab")
      put := none, post := none, delete := none, options := none, patch := none, trace := none })] }
where
  operation (id : String) : Spec.Operation :=
    ⟨some id, none, none, false, [], [], none, [], none, []⟩
  nodes : Json := .obj [("Size", .obj [("enum", .arr [.str "s", .str "m"])]),
    ("Measure", .obj [("$ref", .str "#/components/schemas/Size")])]
  schemas : Entries String (Spec.Position Spec.Schema) :=
    [("Size", .inline { enumValues := [.str "s", .str "m"] }),
      ("Measure", .ref "#/components/schemas/Size")]

lemma isRead_similarIds : similarIds.IsRead := by
  have hschemas : Json.entries? Spec.Position.ofJson? similarIds.nodes
      = some similarIds.schemas := by
    simp [similarIds.nodes, Json.entries?, Spec.Position.ofJson?, Spec.Schema.ofMembers?,
      Entries.get?, List.lookup_cons]
    rfl
  have hcomponents : Spec.Components.ofJson? (.obj [("schemas", similarIds.nodes)])
      = some { schemas := similarIds.schemas } := by
    simp only [Spec.Components.ofJson?, ↓Json.bind_eq_some_iff]
    exact ⟨_, rfl, _, hschemas, _, rfl, _, rfl, _, rfl, _, rfl, rfl⟩
  have hdocument : Spec.Document.ofJson? similarIds.tree = some similarIds.document := by
    simp only [Spec.Document.ofJson?, ↓Json.bind_eq_some_iff]
    exact ⟨_, rfl, _, rfl, _, rfl, _, rfl, _, rfl, _, rfl, _,
      congrArg (Option.map some) hcomponents, _, rfl, rfl⟩
  exact ⟨similarIds.tree, by decide +kernel, Spec.Source.ofTree_eq_ok_iff.mpr
    ⟨⟨"3.1.0", rfl, by decide +kernel⟩, hdocument, rfl⟩⟩

/-- Its model. -/
def similarModel : Api where
  info := ⟨"Pets", none, "1"⟩
  paths := [("/pets", [(.get, operation "aB" .get), (.head, operation "ab" .head)])]
  components := { schemas := [("Size", Normalize.enumeration [.str "s", .str "m"]),
    ("Measure", .reference "#/components/schemas/Size")] }
where
  operation (id : String) (method : HttpMethod) : Operation := {
    id, method, path := "/pets", operationId := some id, summary := none, description := none
    deprecated := false, tags := [], parameters := {}, body := none, responses := []
    security := [], servers := [] }

lemma api_similarIds :
    (Normalize.api similarIds ⟨.declaredId, [], []⟩).value = similarModel := by
  have hsize : Pointer.schemaName? "#/components/schemas/Size" = some "Size" := by decide +kernel
  have hcatalog : Normalize.componentSchemas (.ofSource similarIds)
      (similarIds.document.components.getD {}).schemas
        = ⟨similarModel.components.schemas, []⟩ := by
    simp only [similarIds, Option.getD_some, Normalize.componentSchemas, similarIds.schemas,
      position_enumValues]
    rw [Normalize.position_ref hsize rfl]
    rfl
  unfold Normalize.api
  dsimp only
  rw [hcatalog]
  rfl

theorem closed_of_session_similarIds :
    ∃ r p σ file, similarIds.IsRead ∧ Normalize.run similarIds ⟨.declaredId, [], []⟩ = .ok r
      ∧ Pipeline.ofConfig { generators := [.types { enums := true }] } = .ok p
      ∧ p.session ⟨r.value, { generators := [.types { enums := true }] }⟩ = .ok σ
      ∧ σ.files.get? fileId = some file
      ∧ TypeScript.aliasNames file.nodes = ["Size", "Measure", "ABData", "AbData2"]
      ∧ TypeScript.constNames file.nodes = ["Size"]
      ∧ TypeScript.stmtsMentions file.nodes = [(.value, "Size"), (.type, "Size")]
      ∧ Closed file.nodes := by
  have hrun : Normalize.run similarIds ⟨.declaredId, [], []⟩
      = .ok (Normalize.api similarIds ⟨.declaredId, [], []⟩) := rfl
  have hconfig : Pipeline.ofConfig { generators := [.types { enums := true }] }
      = .ok [.types { enums := true }] := rfl
  have hnames : ((Pipeline.session [.types { enums := true }]
      ⟨similarModel, { generators := [.types { enums := true }] }⟩).toOption.bind fun σ =>
        (σ.files.get? fileId).map fun file => (TypeScript.aliasNames file.nodes,
          TypeScript.constNames file.nodes, TypeScript.stmtsMentions file.nodes))
      = some (["Size", "Measure", "ABData", "AbData2"], ["Size"],
          [(.value, "Size"), (.type, "Size")]) := by decide +kernel
  obtain ⟨σ, hσ, hfile⟩ := Option.bind_eq_some_iff.mp hnames
  obtain ⟨file, hfile, heq⟩ := Option.map_eq_some_iff.mp hfile
  obtain ⟨haliases, hrest⟩ := Prod.mk.inj heq
  obtain ⟨hconstants, hmentions⟩ := Prod.mk.inj hrest
  have hsession := Generation.eq_ok_of_toOption hσ
  rw [← api_similarIds] at hsession
  exact ⟨_, _, σ, file, isRead_similarIds, hrun, hconfig, hsession, hfile, haliases, hconstants,
    hmentions, closed_of_session isRead_similarIds hrun hconfig hsession hfile⟩

end OpenApiTypes.Types
