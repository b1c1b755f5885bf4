/-
The whole run of the generator of transformers.

* `Transformers.namedAlike_of_reference?`: functions are known under one reference only if a
  template gives one name for both;
* `Transformers.Complete`: what the generator has done after some operations;
* `Transformers.KeepsApart`: no two operations have transformers under one reference;
* `Transformers.complete_run`: the generator then leaves behind what it has done after all
  operations;
* `Transformers.complete_of_session`: so does a pipeline that has the generator.
-/
import OpenApiTypes.Proofs.Generation.Pipeline
import OpenApiTypes.Proofs.Naming.Template
import OpenApiTypes.Proofs.Pointer
import OpenApiTypes.Proofs.Transformers.Frame
import OpenApiTypes.Proofs.Transformers.Progress

namespace OpenApiTypes.Transformers

open OpenApiTypes.Generation (Pipeline Runs Session Setting runs_bind_iff runs_ofConfig_iff
  runs_pure_iff runs_request_iff runs_requireFile_iff runs_requireName_iff runs_storeFile_iff
  runs_suppress_iff)
open OpenApiTypes.Model
open OpenApiTypes.Output (Registry)
open OpenApiTypes.TypeScript (Expr Stmt)
open OpenApiTypes.Config (TransformersOptions)

variable {options : TransformersOptions} {setting : Setting} {api : Api} {op : Operation}
  {done : List Operation} {σ σ' : Session} {p : String}

/-! ### References -/

lemma transformerReference_injective : Function.Injective transformerReference := by
  intro transformer other h
  unfold transformerReference at h
  exact Pointer.escape_injective (by simpa using h)

lemma helperReference_injective : Function.Injective helperReference := by
  intro helper other h
  unfold helperReference at h
  exact Pointer.escape_injective (by simpa using h)

/-- A transformer is never known under the reference of a helper. -/
lemma transformerReference_ne_helperReference (transformer helper : String) :
    transformerReference transformer ≠ helperReference helper := by
  unfold transformerReference helperReference
  intro h
  have := congrArg (fun s => List.take 3 (String.toList s)) h
  simp at this

section

variable [Template.Engine]

/-- The reference of a helper is made of the name that the template gives for its component. -/
lemma exists_helper {pointer : String}
    (h : (Function.helper pointer).reference? options = some p) : ∃ component helper,
      Pointer.schemaName? pointer = some component
        ∧ Template.nameFor options.schemaName component = .ok helper
        ∧ p = helperReference helper := by
  obtain ⟨component, hcomponent, hrendered⟩ := Option.bind_eq_some_iff.mp h
  obtain ⟨helper, hname, hp⟩ := Option.bind_eq_some_iff.mp hrendered
  exact ⟨component, helper, hcomponent, nameFor_of_renderName (Generation.eq_ok_of_toOption hname),
    (Option.some.inj hp).symm⟩

/-- The reference of a transformer is made of the name that the template gives for its
operation. -/
lemma exists_transformer (h : (Function.response op).reference? options = some p) :
    ∃ transformer, Template.nameFor options.responseName op.id = .ok transformer
      ∧ p = transformerReference transformer := by
  obtain ⟨transformer, hname, hp⟩ := Option.bind_eq_some_iff.mp h
  exact ⟨transformer, nameFor_of_renderName (Generation.eq_ok_of_toOption hname),
    (Option.some.inj hp).symm⟩

/-- Functions of one kind for which a template gives one name. -/
inductive Function.NamedAlike (options : TransformersOptions) : Function → Function → Prop where
  | helper {pointer pointer' component component' helper : String}
      (hcomponent : Pointer.schemaName? pointer = some component)
      (hcomponent' : Pointer.schemaName? pointer' = some component')
      (hname : Template.nameFor options.schemaName component = .ok helper)
      (hname' : Template.nameFor options.schemaName component' = .ok helper) :
      NamedAlike options (.helper pointer) (.helper pointer')
  | response {op other : Operation} {transformer : String}
      (hname : Template.nameFor options.responseName op.id = .ok transformer)
      (hname' : Template.nameFor options.responseName other.id = .ok transformer) :
      NamedAlike options (.response op) (.response other)

/-- Only for such functions are there equal references. -/
lemma namedAlike_of_reference? {f f' : Function} (h : f.reference? options = some p)
    (h' : f'.reference? options = some p) : f.NamedAlike options f' := by
  cases f with
  | helper pointer =>
    obtain ⟨component, helper, hcomponent, hname, rfl⟩ := exists_helper h
    cases f' with
    | helper pointer' =>
      obtain ⟨component', helper', hcomponent', hname', hp⟩ := exists_helper h'
      obtain rfl := helperReference_injective hp
      exact .helper hcomponent hcomponent' hname hname'
    | response op =>
      obtain ⟨transformer, -, hp⟩ := exists_transformer h'
      exact absurd hp.symm (transformerReference_ne_helperReference _ _)
  | response op =>
    obtain ⟨transformer, hname, rfl⟩ := exists_transformer h
    cases f' with
    | helper pointer =>
      obtain ⟨component, helper, -, -, hp⟩ := exists_helper h'
      exact absurd hp (transformerReference_ne_helperReference _ _)
    | response other =>
      obtain ⟨transformer', hname', hp⟩ := exists_transformer h'
      obtain rfl := transformerReference_injective hp
      exact .response hname hname'

end

/-- Operations whose transformers are known under one reference have one id. -/
lemma id_eq_of_reference? (hplain : Template.IsPlain options.responseName) {other : Operation}
    (h : (Function.response op).reference? options = some p)
    (h' : (Function.response other).reference? options = some p) : op.id = other.id := by
  cases namedAlike_of_reference? h h' with
  | response hname hname' => exact hplain.injective hname hname'

/-- No two operations of a model have transformers that are known under one reference. -/
def KeepsApart (options : TransformersOptions) (api : Api) : Prop :=
  ∀ op ∈ api.operations, ∀ other ∈ api.operations, ∀ {p},
    (Function.response op).reference? options = some p →
    (Function.response other).reference? options = some p → op.id = other.id

/-! ### Operations -/

/-- The helper that is known under a reference is asked for by the response of one of some
operations. -/
def RequestedBy (options : TransformersOptions) (catalog : Catalog) (operations : List Operation)
    (p : String) : Prop :=
  ∃ op ∈ operations, ∃ s, responseSchema? op = some s ∧ Requests options catalog s p

lemma RequestedBy.exists_helper {catalog : Catalog} (h : RequestedBy options catalog done p) :
    ∃ helper, p = helperReference helper := by
  obtain ⟨_, _, _, _, _, pointer, _, _, hreference⟩ := h
  obtain ⟨_, helper, _, _, hp⟩ := Transformers.exists_helper hreference
  exact ⟨helper, hp⟩

/-- What the generator has done after some operations: their transformers are declared or need no
statements, and nothing else is named but the helpers that they ask for. -/
structure Complete (options : TransformersOptions) (api : Api) (done : List Operation)
    (σ : Session) : Prop where
  coherent : ∃ declared, Coherent options api [] declared σ
  known : ∀ {p e}, σ.registry.status? p .value fileId = some e →
    RequestedBy options api.catalog done p
      ∨ ∃ op ∈ done, (Function.response op).reference? options = some p
  named : ∀ op ∈ done, (responseSchema? op).isSome → ∃ p e,
    (Function.response op).reference? options = some p
      ∧ σ.registry.status? p .value fileId = some e

lemma Complete.skip (h : Complete options api done σ) (hop : responseSchema? op = none) :
    Complete options api (done ++ [op]) σ where
  coherent := h.coherent
  known := fun he => (h.known he).imp
    (fun ⟨other, hother, hs⟩ => ⟨other, List.mem_append_left _ hother, hs⟩)
    fun ⟨other, hother, hp⟩ => ⟨other, List.mem_append_left _ hother, hp⟩
  named := by
    intro other hother hs
    rcases List.mem_append.mp hother with hother | hother
    · exact h.named other hother hs
    · obtain rfl := List.mem_singleton.mp hother
      simp [hop] at hs

/-- An operation is done when its transformer has a name and its session is coherent again. -/
lemma Complete.step (h : Complete options api done σ) {declared : List (String × Stmt)}
    {s : Schema} (hs : responseSchema? op = some s)
    (hcoherent : Coherent options api [] declared σ')
    (hextends : σ.registry.Extends σ'.registry)
    (hreference : (Function.response op).reference? options = some p)
    (hnamed : ∃ e, σ'.registry.status? p .value fileId = some e)
    (hknown : ∀ {q e}, σ'.registry.status? q .value fileId = some e → q = p
      ∨ Requests options api.catalog s q ∨ ∃ e, σ.registry.status? q .value fileId = some e) :
    Complete options api (done ++ [op]) σ' where
  coherent := ⟨declared, hcoherent⟩
  known := by
    intro q e he
    rcases hknown he with rfl | hq | ⟨e, he⟩
    · exact .inr ⟨op, by simp, hreference⟩
    · exact .inl ⟨op, by simp, s, hs, hq⟩
    · exact (h.known he).imp
        (fun ⟨other, hother, hs⟩ => ⟨other, List.mem_append_left _ hother, hs⟩)
        fun ⟨other, hother, hp⟩ => ⟨other, List.mem_append_left _ hother, hp⟩
  named := by
    intro other hother hsome
    rcases List.mem_append.mp hother with hother | hother
    · obtain ⟨q, e, hq, he⟩ := h.named other hother hsome
      exact ⟨q, e, hq, hextends he⟩
    · obtain rfl := List.mem_singleton.mp hother
      obtain ⟨e, he⟩ := hnamed
      exact ⟨p, e, hreference, he⟩

/-- The transformer is added to the file; only imports change beside it. -/
lemma runs_addTransformer {name type : String} {body : List Stmt} {u : Unit}
    (h : Runs (addTransformer name type body) σ u σ') :
    ∃ stmt file file', Declares name body stmt ∧ σ.files.get? fileId = some file
      ∧ file'.nodes = file.nodes ++ [stmt]
      ∧ σ' = { σ with files := σ.files.put fileId file' } := by
  obtain ⟨types, σ₁, htypes, hrest⟩ := runs_bind_iff.mp h
  obtain ⟨-, rfl⟩ := runs_requireFile_iff.mp htypes
  obtain ⟨file, σ₂, hrequire, hstore⟩ := runs_bind_iff.mp hrest
  obtain ⟨hfile, rfl⟩ := runs_requireFile_iff.mp hrequire
  have hnodes : ∀ module i, (file.import_ module i).2.nodes = file.nodes := by
    intro module i
    unfold Output.File.import_
    dsimp only
    split <;> rfl
  obtain rfl := runs_storeFile_iff.mp hstore
  exact ⟨_, file, _, ⟨true, true, _, rfl⟩, hfile, congrArg (· ++ [_]) (hnodes _ _), rfl⟩

lemma complete_declareOperation (h : Complete options setting.model done σ)
    (hop : op ∈ setting.model.operations)
    (hfresh : ∀ other ∈ done, ∀ {p}, (Function.response other).reference? options = some p →
      (Function.response op).reference? options ≠ some p) {u : Unit}
    (hrun : Runs (declareOperation setting options op) σ u σ') :
    Complete options setting.model (done ++ [op]) σ' := by
  unfold declareOperation at hrun
  split at hrun
  · obtain ⟨-, rfl⟩ := runs_pure_iff.mp hrun
    exact h.skip ‹_›
  rename_i s hs
  obtain ⟨type, σ₁, htype, hrendered⟩ := runs_bind_iff.mp hrun
  obtain ⟨-, rfl⟩ := runs_requireName_iff.mp htype
  obtain ⟨rendered, σ₁, hconfig, hnamed⟩ := runs_bind_iff.mp hrendered
  obtain ⟨hname, rfl⟩ := runs_ofConfig_iff.mp hconfig
  obtain ⟨answer, σ₁, hrequest, hanswered⟩ := runs_bind_iff.mp hnamed
  obtain ⟨rfl, rfl⟩ := runs_request_iff.mp hrequest
  have hreference : (Function.response op).reference? options
      = some (transformerReference rendered) := by
    simp [Function.reference?, hname, Except.toOption]
  have hentry : σ.registry.status? (transformerReference rendered) .value fileId = none := by
    by_contra hne
    obtain ⟨e, he⟩ := Option.ne_none_iff_exists'.mp hne
    rcases h.known he with hrequested | ⟨other, hother, hp⟩
    · obtain ⟨helper, hp⟩ := hrequested.exists_helper
      exact transformerReference_ne_helperReference _ _ hp
    · exact hfresh other hother hp hreference
  obtain ⟨declared, hσ⟩ := h.coherent
  simp only [Registry.request_eq, hentry, Output.Identifier.name?] at hanswered
  obtain ⟨body, σ₂, hbody, hrest⟩ := runs_bind_iff.mp hanswered
  obtain ⟨more, hσ₂, hadvance, hempty, hdeclared⟩ :=
    coherent_of_functionBody (yields_statements setting options _) hσ hentry
      (f := .response op) hop hreference hs hbody
  have hextends : σ.registry.Extends σ₂.registry :=
    (Registry.extends_create hentry).trans hadvance.registry
  have hknown : ∀ {q e}, σ₂.registry.status? q .value fileId = some e →
      q = transformerReference rendered ∨ Requests options setting.model.catalog s q
        ∨ ∃ e, σ.registry.status? q .value fileId = some e := by
    intro q e he
    by_cases hq : q = transformerReference rendered
    · exact .inl hq
    · rcases hadvance.names he with he | he
      · exact .inr (.inr ⟨e, by simpa [Registry.status?_create, hq] using he⟩)
      · exact .inr (.inl he)
  split at hrest
  · rename_i hnil
    obtain ⟨r, hr, rfl⟩ := runs_suppress_iff.mp hrest
    obtain ⟨rfl, hwithdrawn⟩ := hempty (by simpa using hnil)
    rw [List.append_nil] at hσ₂
    obtain ⟨hcoherent, hextends'⟩ :=
      hσ.withdraw hentry hσ₂ hextends hadvance.truncated hwithdrawn hr
    obtain ⟨e, -, hsuppressed⟩ := Registry.status?_suppress? hr
    refine h.step hs hcoherent hextends' hreference ⟨.suppressed e.name, by simp [hsuppressed]⟩ ?_
    intro q e he
    by_cases hq : q = transformerReference rendered
    · exact .inl hq
    · exact hknown (by simpa [hsuppressed, hq] using he)
  · rename_i hcons
    obtain ⟨stmt, file, file', hstmt, hfile, hnodes, rfl⟩ := runs_addTransformer hrest
    have hcoherent := hσ₂.declare (hσ.not_mem_of_entry?_eq_none hentry).1
      (hdeclared (by simpa using hcons) hstmt) hfile hnodes
    exact h.step hs hcoherent hextends hreference
      ⟨_, hadvance.registry (by simp [Registry.status?_create]; rfl)⟩ hknown

/-! ### The whole file -/

/-- Before the generator runs, nothing is named in its file. -/
lemma complete_run (hapart : KeepsApart options setting.model)
    (hids : (setting.model.operations.map Operation.id).Nodup)
    (hnames : ∀ p, σ.registry.status? p .value fileId = none) {u : Unit}
    (hrun : Runs (run setting options) σ u σ') :
    Complete options setting.model setting.model.operations σ' := by
  obtain ⟨_, σ₁, htypes, hrest⟩ := runs_bind_iff.mp hrun
  obtain ⟨-, rfl⟩ := runs_requireFile_iff.mp htypes
  obtain ⟨_, σ₁, hcreate, hrest⟩ := runs_bind_iff.mp hrest
  obtain rfl := Generation.runs_createFile_iff.mp hcreate
  rw [Generation.forEach_operation] at hrest
  refine hrest.forM_induction (motive := fun done σ => Complete options setting.model done σ)
    ⟨⟨[], ?_⟩, ?_, by simp⟩ ?_
  · have hdistinct := (Registry.distinct_of_forall hnames).registerFile fileId .camel
    exact ⟨hdistinct, ⟨_, Entries.get?_put_self _ _ _, rfl⟩, by simp, by simp, by simp, by simp,
      by simp [hnames], by simp [hnames]⟩
  · simp [hnames]
  · intro done op σ₁ σ₂ hdone h hstep
    have hop : op ∈ setting.model.operations := hdone.subset (by simp)
    refine complete_declareOperation h hop ?_ hstep
    -- Operations before this one have other ids.
    intro other hother p hp hp'
    have hne := hids.sublist (hdone.sublist.map Operation.id)
    rw [List.map_append, List.nodup_append] at hne
    exact hne.2.2 _ (List.mem_map_of_mem hother) _ (by simp)
      (hapart _ (hdone.subset (List.mem_append_left _ hother)) _ hop hp hp')

section

variable {config : Config} {pipeline : Pipeline} (hids : (api.operations.map Operation.id).Nodup)
  (hp : Pipeline.ofConfig config = .ok pipeline)
  (hmem : .transformers options ∈ config.generators)
  (hσ : pipeline.session ⟨api, config⟩ = .ok σ)

include hids hp hmem hσ

/-- A pipeline with the generator leaves behind what the generator has done after all operations. -/
lemma complete_of_keepsApart (hapart : KeepsApart options api) :
    Complete options api api.operations σ := by
  obtain ⟨o, σ₁, -, -, hrun, hnames⟩ := exists_runs_of_session hp hmem hσ
  exact complete_run hapart hids (fun q => hnames q .value) hrun

end

/-- It does so under a template that is a text, the name and another text. -/
lemma complete_of_session {config : Config} {p : Pipeline}
    (hplain : Template.IsPlain options.responseName)
    (hids : (api.operations.map Operation.id).Nodup) (hp : Pipeline.ofConfig config = .ok p)
    (hmem : .transformers options ∈ config.generators)
    (hσ : p.session ⟨api, config⟩ = .ok σ) : Complete options api api.operations σ :=
  complete_of_keepsApart hids hp hmem hσ fun _ _ _ _ _ => id_eq_of_reference? hplain

end OpenApiTypes.Transformers
