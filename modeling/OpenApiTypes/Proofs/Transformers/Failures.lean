/-
Why the generator of transformers fails.

* `Transformers.TemplateFault`: a template of the generator gives no name;
* `Transformers.FaultFor`: it gives none for a component or an operation of a model;
* `Transformers.Ready`: the files of types and of transformers are there, certain types have names,
  and certain functions have been asked for;
* `Transformers.ensures_statements`: the statements for a schema fail for no other reason;
* `Transformers.ensures_run`: neither does the generator, if the types of responses have names.
-/
import OpenApiTypes.Proofs.Transformers.Frame
import OpenApiTypes.Proofs.Types.Total

namespace OpenApiTypes.Transformers

open OpenApiTypes.Config (TransformersOptions)
open OpenApiTypes.Generation (Confined Ensures Failure Runs Session Setting runs_addTo_iff
  runs_bind_iff runs_createFile_iff runs_request_iff runs_requireFile_iff runs_requireName_iff
  runs_storeFile_iff runs_suppress_iff)
open OpenApiTypes.Model
open OpenApiTypes.Output (Registry)
open OpenApiTypes.TypeScript (Expr Stmt)

variable [Template.Engine] {α : Type} {setting : Setting} {options : TransformersOptions}
  {api : Api} {types : List Types.Declared} {known : List String} {σ σ' : Session}

/-- A template of the generator gives no name for something. -/
def TemplateFault (options : TransformersOptions) (failure : Failure) : Prop :=
  ∃ template ∈ [options.schemaName, options.responseName], ∃ name fault,
    Template.nameFor template name = .error fault
      ∧ failure = .config (.invalidTemplate generatorName template fault)

/-- What the templates of the generator are rendered for: names of components, and the ids of the
operations of a model. -/
inductive Rendered (options : TransformersOptions) (api : Api) : String → String → Prop where
  | schema {pointer name : String} (hname : Pointer.schemaName? pointer = some name) :
      Rendered options api options.schemaName name
  | response {op : Operation} (hop : op ∈ api.operations) :
      Rendered options api options.responseName op.id

/-- A template of the generator gives no name for a component or an operation of a model. -/
def FaultFor (options : TransformersOptions) (api : Api) (failure : Failure) : Prop :=
  ∃ template name, Rendered options api template name ∧ ∃ fault,
    Template.nameFor template name = .error fault
      ∧ failure = .config (.invalidTemplate generatorName template fault)

lemma FaultFor.templateFault {failure : Failure} (h : FaultFor options api failure) :
    TemplateFault options failure := by
  obtain ⟨template, name, hrendered, fault, hfault⟩ := h
  refine ⟨template, ?_, name, fault, hfault⟩
  cases hrendered with
  | schema => exact List.mem_cons_self
  | response => exact List.mem_cons_of_mem _ List.mem_cons_self

lemma faultFor_of_renderName {template name : String} {problem : Config.Problem}
    (hrendered : Rendered options api template name)
    (h : Config.renderName generatorName template name = .error problem) :
    FaultFor options api (.config problem) := by
  unfold Config.renderName at h
  split at h
  · simp at h
  · rename_i fault hfault
    obtain rfl := Except.error.inj h
    exact ⟨template, name, hrendered, fault, hfault, rfl⟩

/-- The files of types and of transformers are there, certain types have names, and certain
functions have been asked for. -/
structure Ready (types : List Types.Declared) (known : List String) (σ : Session) : Prop where
  types : Types.Ready types σ
  file : ∃ file, σ.files.get? fileId = some file
  known : ∀ p ∈ known, ∃ e, σ.registry.status? p .value fileId = some e

/-! ### Single steps -/

lemma ensures_warn (location message : String) :
    Ensures (FaultFor options api) (Ready types known) (Generation.warn location message)
      fun _ => Ready types known :=
  .warn location message fun _ h => ⟨⟨h.types.file, h.types.unwithdrawn, h.types.given⟩, h.file,
    h.known⟩

/-- A step in the file of transformers leaves the file of types alone. -/
lemma ensures_of_confined {known' : List String} {x : Generation α} (hx : Confined fileId x)
    (h : ∀ σ, Ready types known σ → ∃ a σ', Runs x σ a σ'
      ∧ (∃ file, σ'.files.get? fileId = some file)
      ∧ ∀ p ∈ known', ∃ e, σ'.registry.status? p .value fileId = some e) :
    Ensures (FaultFor options api) (Ready types known) x fun _ => Ready types known' := by
  refine .of_runs fun σ hσ => ?_
  obtain ⟨a, σ', hrun, hfile, hknown⟩ := h σ hσ
  exact ⟨a, σ', hrun, hσ.types.sameOutside (by decide) (hx hrun).2, hfile, hknown⟩

lemma ensures_request (p : String) : Ensures (FaultFor options api) (Ready types known)
    (Generation.request fileId p .value true) fun _ => Ready types (p :: known) := by
  refine ensures_of_confined (.request p .value) fun σ h =>
    ⟨_, _, runs_request_iff.mpr ⟨rfl, rfl⟩, h.file, fun q hq => ?_⟩
  rcases List.mem_cons.mp hq with rfl | hq
  · exact Registry.exists_entry_of_request ..
  · obtain ⟨e, he⟩ := h.known q hq
    exact ⟨e, Registry.extends_request _ _ _ _ he⟩

/-- What has been asked for can be withdrawn. -/
lemma ensures_suppress {p : String} (hp : p ∈ known) : Ensures (FaultFor options api)
    (Ready types known) (Generation.suppress fileId p .value) fun _ => Ready types known := by
  refine ensures_of_confined (.suppress p .value) fun σ h => ?_
  obtain ⟨e, he⟩ := h.known p hp
  obtain ⟨r, hr⟩ := Registry.exists_suppress? he
  obtain ⟨e', -, hentry⟩ := Registry.status?_suppress? hr
  refine ⟨(), _, runs_suppress_iff.mpr ⟨r, hr, rfl⟩, h.file, fun q hq => ?_⟩
  obtain ⟨e, he⟩ := h.known q hq
  rw [hentry]
  split
  · exact ⟨_, rfl⟩
  · exact ⟨e, he⟩

lemma ensures_addTo (s : Stmt) : Ensures (FaultFor options api) (Ready types known)
    (Generation.addTo generatorName fileId s) fun _ => Ready types known := by
  refine ensures_of_confined (.addTo _ _) fun σ h => ?_
  obtain ⟨file, hfile⟩ := h.file
  exact ⟨(), _, runs_addTo_iff.mpr ⟨file, hfile, rfl⟩, ⟨_, Entries.get?_put_self _ _ _⟩, h.known⟩

lemma ensures_renderName {template name : String} (hrendered : Rendered options api template name) :
    Ensures (FaultFor options api) (Ready types known)
      (Generation.ofConfig (Config.renderName generatorName template name)) fun _ =>
        Ready types known :=
  (Ensures.ofConfig fun _ h => faultFor_of_renderName hrendered h).weaken (fun _ h => h)
    fun _ _ h => h.2

/-! ### Statements -/

section

variable {convert : Conversion}
  (h : ∀ known s target location, Ensures (FaultFor options api) (Ready types known)
    (convert s target location) fun _ => Ready types known)

include h

lemma ensures_guarded (s : Schema) (target : Expr) (location : String) :
    Ensures (FaultFor options api) (Ready types known) (guarded convert s target location)
      fun _ => Ready types known :=
  (h known s target location).bind fun _ => .pure fun _ h => h

lemma ensures_functionBody (s : Schema) (location : String) :
    Ensures (FaultFor options api) (Ready types known) (functionBody convert s location) fun _ =>
      Ready types known :=
  (ensures_guarded h s data location).bind fun _ => .pure fun _ h => h

lemma ensures_declareHelper (pointer name : String) :
    Ensures (FaultFor options api) (Ready types known)
      (declareHelper setting convert pointer name) fun _ => Ready types known := by
  have hadd : ∀ body : List Stmt, Ensures (FaultFor options api) (Ready types known) (do
      if body.isEmpty then return false
      Generation.addTo generatorName fileId (.const name false none (functionOf "data" body) [])
      return true) fun _ => Ready types known := fun body => by
    split
    · exact .pure fun _ h => h
    · exact (ensures_addTo _).bind fun _ => .pure fun _ h => h
  unfold declareHelper
  split
  · exact (ensures_functionBody h _ _).bind hadd
  · exact (Ensures.pure fun _ h => h).bind hadd

/-- A helper that turns out not to be needed has been asked for before. -/
lemma ensures_helperCall
    (pointer : String) (target : Expr) (location : String) :
    Ensures (FaultFor options api) (Ready types known)
      (helperCall setting options convert pointer target location) fun _ => Ready types known := by
  have hforget : ∀ (p : String) (a : List Stmt), Ensures (FaultFor options api)
      (Ready types (p :: known)) (Pure.pure a : Generation (List Stmt)) fun _ =>
        Ready types known := fun p a =>
    .pure fun _ h => ⟨h.types, h.file, fun q hq => h.known q (List.mem_cons_of_mem _ hq)⟩
  unfold helperCall
  split
  · exact (ensures_warn _ _).bind fun _ => .pure fun _ h => h
  rename_i name hname
  refine (ensures_renderName (.schema hname)).bind fun helper =>
    (ensures_request _).bind fun i => ?_
  split
  · refine (ensures_declareHelper h _ _).bind fun needed => ?_
    split
    · exact hforget _ _
    · exact (ensures_suppress List.mem_cons_self).bind fun _ => hforget _ _
  · exact hforget _ _
  · exact hforget _ _

lemma ensures_itemStatements (target : Expr) (location : String) (index : Nat)
    (items : List Schema) :
    Ensures (FaultFor options api) (Ready types known)
      (itemStatements convert target location index items) fun _ => Ready types known := by
  induction items generalizing index with
  | nil => exact .pure fun _ h => h
  | cons s rest ih => exact (h _ _ _ _).bind fun _ => (ih _).bind fun _ => .pure fun _ h => h

lemma ensures_ownStatements (s : Schema) (target : Expr) (location : String) :
    Ensures (FaultFor options api) (Ready types known)
      (ownStatements options convert s target location) fun _ => Ready types known := by
  have hnothing : ∀ a : List Stmt, Ensures (FaultFor options api) (Ready types known)
      (Pure.pure a : Generation (List Stmt)) fun _ => Ready types known :=
    fun _ => .pure fun _ h => h
  unfold ownStatements
  split
  · unfold arrayStatements
    split
    · exact hnothing _
    · refine (ensures_guarded h _ _ _).bind fun body => ?_
      split <;> exact hnothing _
  · exact (Ensures.mapM fun property _ => (h _ _ _ _).bind fun _ => hnothing _).bind fun _ =>
      hnothing _
  · exact hnothing _
  · exact hnothing _
  · split
    · exact hnothing _
    unfold compositionStatements
    split
    · exact ensures_itemStatements h _ _ _ _
    split
    · exact (ensures_warn _ _).bind fun _ => hnothing _
    · exact hnothing _

end

/-- The statements for a schema fail for no reason but a template. -/
lemma ensures_statements
    (levels : Nat) (s : Schema) (target : Expr) (location : String) :
    Ensures (FaultFor options api) (Ready types known)
      (statements setting options levels s target location) fun _ => Ready types known := by
  induction levels generalizing known s target location with
  | zero => exact (ensures_warn _ _).bind fun _ => .pure fun _ h => h
  | succ levels ih =>
    unfold statements
    dsimp only
    split
    · exact ensures_helperCall (fun _ => ih) _ _ _
    · exact ensures_ownStatements (fun _ => ih) _ _ _

/-! ### Operations -/

lemma ensures_addTransformer (name responseType : String) (body : List Stmt) :
    Ensures (FaultFor options api) (Ready types known) (addTransformer name responseType body)
      fun _ => Ready types known := by
  refine ensures_of_confined (confined_addTransformer _ _ _) fun σ h => ?_
  obtain ⟨typesFile, htypes⟩ := h.types.file
  obtain ⟨file, hfile⟩ := h.file
  have hrun : ∃ file', Runs (addTransformer name responseType body) σ ()
      { σ with files := σ.files.put fileId file' } := by
    simp only [addTransformer, runs_bind_iff, runs_requireFile_iff, runs_storeFile_iff]
    exact ⟨_, typesFile, _, ⟨htypes, rfl⟩, file, _, ⟨hfile, rfl⟩, rfl⟩
  obtain ⟨file', hrun⟩ := hrun
  exact ⟨(), _, hrun, ⟨_, Entries.get?_put_self _ _ _⟩, h.known⟩

omit [Template.Engine] in
/-- The schema of a response that is restored is that of all successes. -/
lemma schema?_of_responseSchema? {op : Operation} {s : Schema} (hs : responseSchema? op = some s) :
    op.successes.schema? = some s := by
  unfold responseSchema? at hs
  dsimp only at hs
  split at hs
  · simp at hs
  · exact hs

omit [Template.Engine] in
/-- An operation whose response is restored has a type for it. -/
lemma response_mem_operationTypes {op : Operation} {s : Schema}
    (hs : responseSchema? op = some s) : .response ∈ Types.operationTypes op := by
  have hschema := schema?_of_responseSchema? hs
  have hne : op.successes.isEmpty = false := by
    cases hempty : op.successes.isEmpty with
    | false => rfl
    | true =>
      rw [List.isEmpty_iff.mp hempty] at hschema
      simp [Responses.schema?, unionOf, distinct, Entries.values] at hschema
  simp [Types.operationTypes, Types.responseTypes, hne, hschema]

lemma ensures_declareOperation
    {op : Operation} (hmem : op ∈ api.operations)
    (hop : ∀ t ∈ Types.operationTypes op, .operation op.id t ∈ types) :
    Ensures (FaultFor options api) (Ready types []) (declareOperation setting options op) fun _ =>
      Ready types [] := by
  unfold declareOperation
  split
  · exact .pure fun _ h => h
  rename_i s hs
  have hrequire : Ensures (FaultFor options api) (Ready types [])
      (Generation.requireName Types.fileId (Types.operationReference op.id .response) .type)
      fun _ => Ready types [] := .of_runs fun σ h => by
    obtain ⟨name, hname⟩ := h.types.given _ (hop _ (response_mem_operationTypes hs))
    refine ⟨name, σ, runs_requireName_iff.mpr ⟨?_, rfl⟩, h⟩
    rw [Registry.name?, show σ.registry.status? (Types.operationReference op.id .response) .type
      Types.fileId = some (.active name) from hname]
  have hforget : ∀ p σ, Ready types [p] σ → Ready types [] σ := fun _ _ h =>
    ⟨h.types, h.file, by simp⟩
  refine hrequire.bind fun type => (ensures_renderName (.response hmem)).bind fun rendered =>
    (ensures_request _).bind fun i => ?_
  split
  · exact .pure (hforget _)
  refine (ensures_functionBody (fun _ => ensures_statements _) _ _).bind fun body => ?_
  split
  · exact (ensures_suppress List.mem_cons_self).weaken (fun _ h => h) fun _ => hforget _
  · exact (ensures_addTransformer _ _ _).weaken (fun _ h => h) fun _ => hforget _

/-! ### The whole file -/

/-- The generator of transformers fails for no reason but a template that gives no name for a
component or an operation, if the file of types is there and has names for the types of all
operations. -/
theorem ensures_run (setting : Setting) (options : TransformersOptions)
    (htypes : ∀ op ∈ setting.model.operations, ∀ t ∈ Types.operationTypes op,
      .operation op.id t ∈ types) :
    Ensures (FaultFor options setting.model) (Types.Ready types) (run setting options) fun _ =>
      Ready types [] := by
  have hrequire : Ensures (FaultFor options setting.model) (Types.Ready types)
      (Generation.requireFile generatorName Types.fileId) fun _ => Types.Ready types :=
    .of_runs fun σ h => by
      obtain ⟨file, hfile⟩ := h.file
      exact ⟨file, σ, runs_requireFile_iff.mpr ⟨hfile, rfl⟩, h⟩
  have hcreate : Ensures (FaultFor options setting.model) (Types.Ready types)
      (Generation.createFile setting fileId options.output .camel options.exportFromIndex)
      fun _ => Ready types [] := .of_runs fun σ h => by
    have hrun : Runs (Generation.createFile setting fileId options.output .camel
      options.exportFromIndex) σ () _ := runs_createFile_iff.mpr rfl
    exact ⟨(), _, hrun, h.sameOutside (by decide) (Generation.Creates.createFile _ _ _ _ hrun).2,
      ⟨_, Entries.get?_put_self _ _ _⟩, by simp⟩
  refine hrequire.bind fun _ => hcreate.bind fun _ => ?_
  refine Ensures.forM_induction (motive := fun _ => Ready types []) fun done e hdone => ?_
  have hevents : Generation.eventsOf setting.model [.operation]
      = setting.model.operations.map .operation := by
    simp [Generation.eventsOf_eq, Generation.entriesOf]
  have he : e ∈ setting.model.operations.map Generation.Event.operation :=
    hevents ▸ hdone.subset (by simp)
  obtain ⟨op, hop, rfl⟩ := List.mem_map.mp he
  exact ensures_declareOperation hop (htypes op hop)

end OpenApiTypes.Transformers
