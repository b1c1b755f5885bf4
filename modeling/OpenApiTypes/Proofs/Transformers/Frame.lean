/-
What the steps of the generator of transformers keep, and what they leave alone.

* `Transformers.Kept`: the steps that the generator is made of keep what holds of a session;
  `Transformers.Kept.statements`, `Transformers.Kept.declareOperation`: so do those that are made of
  them;
* `Transformers.creates_run`: the generator of transformers creates its file, changes no other, and
  creates no name outside it;
* `Transformers.types_run_of_mem`: so the file of types stays as the generator of types leaves it;
* `Transformers.exists_runs_of_session`: and the generator of transformers finds nothing named in
  its file.
-/
import OpenApiTypes.Proofs.Generation.Frame
import OpenApiTypes.Proofs.Generation.Pipeline
import OpenApiTypes.Proofs.Transformers.Emission
import OpenApiTypes.Proofs.Types.Frame

namespace OpenApiTypes.Transformers

open OpenApiTypes.Generation (Confined Creates Keeps Runs Session Setting runs_bind_iff
  runs_pure_iff)
open OpenApiTypes.Model
open OpenApiTypes.TypeScript (Expr Stmt)
open OpenApiTypes.Config (TransformersOptions)

/-! ### Single steps -/

/-- A function of a model that has a schema. -/
structure Function.Stands (api : Api) (f : Function) : Prop where
  belongsTo : f.BelongsTo api
  schema : (f.schema? api).isSome

variable [Template.Engine]

/-- The steps that the generator is made of keep what holds of a session. Functions are declared
under names that are given for them, and transformers return the types of their operations. -/
structure Kept (setting : Setting) (options : TransformersOptions) (P : Session → Prop)
    (given : Function → String → Prop) (returned : Operation → String → Prop) : Prop where
  warn : ∀ location message, Keeps P (Generation.warn location message)
  request : ∀ {f : Function} {p : String}, f.BelongsTo setting.model →
    f.reference? options = some p →
    ∀ ⦃σ i σ'⦄, Runs (Generation.request fileId p .value true) σ i σ' →
      P σ → P σ' ∧ ∀ name ∈ i.name?, given f name
  requireName : ∀ {op : Operation}, op ∈ setting.model.operations → ∀ ⦃σ name σ'⦄,
    Runs (Generation.requireName Types.fileId (Types.operationReference op.id .response) .type)
      σ name σ' → P σ → P σ' ∧ returned op name
  suppress : ∀ p, Keeps P (Generation.suppress fileId p .value)
  helper : ∀ {f : Function} {name : String}, f.Stands setting.model → given f name → ∀ body,
    Keeps P (Generation.addTo generatorName fileId
      (.const name false none (functionOf "data" body) []))
  transformer : ∀ {op : Operation} {name type : String},
    (Function.response op).Stands setting.model → given (.response op) name → returned op type →
    ∀ body, Keeps P (addTransformer name type body)

namespace Kept

variable {setting : Setting} {options : TransformersOptions} {P : Session → Prop}
  {given : Function → String → Prop} {returned : Operation → String → Prop}
  (h : Kept setting options P given returned)

/-! ### Statements -/

section

variable {convert : Conversion}
  (hconvert : ∀ s target location, Keeps P (convert s target location))

include hconvert

omit [Template.Engine] h in
lemma guarded (s : Schema) (target : Expr) (location : String) :
    Keeps P (guarded convert s target location) :=
  (hconvert s target location).bind fun _ => .pure _

omit [Template.Engine] h in
lemma functionBody (s : Schema) (location : String) : Keeps P (functionBody convert s location) :=
  (guarded hconvert s data location).bind fun _ => .pure _

omit [Template.Engine] h in
lemma itemStatements (target : Expr) (location : String) (index : Nat) (items : List Schema) :
    Keeps P (itemStatements convert target location index items) := by
  induction items generalizing index with
  | nil => exact .pure _
  | cons s rest ih => exact (hconvert _ _ _).bind fun _ => (ih _).bind fun _ => .pure _

include h

/-- A helper is declared if its component has a schema that needs statements. -/
lemma declareHelper {pointer name : String} (hname : given (.helper pointer) name) :
    Keeps P (declareHelper setting convert pointer name) := by
  rw [Transformers.declareHelper]
  cases hschema : setting.model.catalog.find? pointer with
  | none => exact .pure false
  | some s =>
    have hstands : (Function.helper pointer).Stands setting.model :=
      ⟨trivial, by rw [Function.schema?, hschema, Option.isSome_some]⟩
    refine (functionBody hconvert s pointer).bind fun body => ?_
    dsimp only
    split
    · exact .pure false
    · exact (h.helper hstands hname body).bind fun _ => .pure true

lemma helperCall (pointer : String) (target : Expr) (location : String) :
    Keeps P (helperCall setting options convert pointer target location) := by
  rw [Transformers.helperCall]
  cases hcomponent : Pointer.schemaName? pointer with
  | none => exact (h.warn _ _).bind fun _ => .pure []
  | some component =>
    refine Keeps.ofConfig_bind fun helper hhelper => ?_
    have hreference : (Function.helper pointer).reference? options
        = some (helperReference helper) := by
      simp [Function.reference?, hcomponent, hhelper, Except.toOption]
    refine Keeps.bind_of (h.request (f := .helper pointer) trivial hreference) fun i hi => ?_
    split
    · refine (h.declareHelper hconvert (hi _ rfl)).bind fun needed => ?_
      split
      · exact .pure _
      · exact (h.suppress _).bind fun _ => .pure _
    · exact .pure _
    · exact .pure _

lemma ownStatements (s : Schema) (target : Expr) (location : String) :
    Keeps P (ownStatements options convert s target location) := by
  rw [Transformers.ownStatements]
  split
  · rw [arrayStatements]
    split
    · exact .pure _
    · refine (guarded hconvert _ _ _).bind fun body => ?_
      split <;> exact .pure _
  · exact (Keeps.mapM fun property => (hconvert _ _ _).bind fun _ => .pure _).bind fun _ => .pure _
  · exact .pure _
  · exact .pure _
  · split
    · exact .pure _
    rw [compositionStatements]
    split
    · exact itemStatements hconvert _ _ _ _
    · split
      · exact (h.warn _ _).bind fun _ => .pure _
      · exact .pure _

end

include h

/-- So do the statements of every schema, however deep it nests. -/
lemma statements (levels : Nat) (s : Schema) (target : Expr) (location : String) :
    Keeps P (statements setting options levels s target location) := by
  induction levels generalizing s target location with
  | zero => exact (h.warn _ _).bind fun _ => .pure _
  | succ levels ih =>
    rw [Transformers.statements]
    split
    · exact h.helperCall ih _ _ _
    · exact h.ownStatements ih _ _ _

/-! ### Operations -/

lemma declareOperation {op : Operation} (hop : op ∈ setting.model.operations) :
    Keeps P (declareOperation setting options op) := by
  rw [Transformers.declareOperation]
  cases hschema : responseSchema? op with
  | none => exact .pure _
  | some s =>
    have hstands : (Function.response op).Stands setting.model :=
      ⟨hop, by rw [Function.schema?, hschema, Option.isSome_some]⟩
    refine Keeps.bind_of (h.requireName hop) fun type htype => ?_
    refine Keeps.ofConfig_bind fun rendered hrendered => ?_
    have hreference : (Function.response op).reference? options
        = some (transformerReference rendered) := by
      simp [Function.reference?, hrendered, Except.toOption]
    refine Keeps.bind_of (h.request (f := .response op) hop hreference) fun i hi => ?_
    split
    · exact .pure _
    · rename_i name hname
      refine (functionBody (h.statements _) _ _).bind fun body => ?_
      split
      · exact h.suppress _
      · exact h.transformer hstands (hi name hname) htype body

/-- So do the functions of all operations. -/
lemma forEach :
    Keeps P (Generation.forEach setting [.operation] (declareEvent setting options)) := by
  rw [Generation.forEach_operation]
  exact .forM fun op hop => h.declareOperation hop

end Kept

/-! ### The whole file -/

omit [Template.Engine] in
/-- An import leaves a file at its path. -/
lemma path_import_ (f : Output.File) (module : String) (i : Output.Import) :
    (f.import_ module i).2.path = f.path := by
  simp only [Output.File.import_]
  split <;> rfl

omit [Template.Engine] in
lemma confined_addTransformer (name responseType : String) (body : List Stmt) :
    Confined fileId (addTransformer name responseType body) :=
  (Confined.requireFile _ _).bind fun _ => .change _ fun f =>
    ⟨_, rfl, path_import_ f _ _⟩

/-- The steps that the generator is made of change no other file. -/
lemma kept_confined (setting : Setting) (options : TransformersOptions) (σ₀ : Session) :
    Kept setting options
      (fun σ => Generation.paths σ = Generation.paths σ₀ ∧ Generation.SameOutside fileId σ₀ σ)
      (fun _ _ => True) fun _ _ => True where
  warn := fun _ _ => (Confined.warn _ _).keeps σ₀
  request := fun _ _ _ _ _ hrun hσ =>
    ⟨(Confined.request _ _).keeps σ₀ hrun hσ, fun _ _ => trivial⟩
  requireName := fun _ _ _ _ hrun hσ => ⟨(Confined.requireName _ _ _).keeps σ₀ hrun hσ, trivial⟩
  suppress := fun _ => (Confined.suppress _ _).keeps σ₀
  helper := fun _ _ _ => (Confined.addTo _ _).keeps σ₀
  transformer := fun _ _ _ _ => (confined_addTransformer _ _ _).keeps σ₀

/-- The generator of transformers creates its file, changes no other, and creates no name outside
it. -/
theorem creates_run (setting : Setting) (options : TransformersOptions) :
    Creates fileId (Output.fileName (Output.withExtension options.output))
      (run setting options) :=
  (Confined.requireFile _ _).bind_creates fun _ => (Creates.createFile _ _ _ _).bind fun _ =>
    .of_keeps fun σ₀ => (kept_confined setting options σ₀).forEach

/-- What the generator of types leaves in its file, and the names that it gives there, are those at
the end of the session. -/
lemma types_run_of_mem {config : Config} {p : Generation.Pipeline} {setting : Setting}
    {σ : Session} {o : Config.TypesOptions} (hp : Generation.Pipeline.ofConfig config = .ok p)
    (hσ : p.session setting = .ok σ) (ho : .types o ∈ p) : ∃ σ₁,
      Runs (Types.run setting o) {} () σ₁
        ∧ σ.files.get? Types.fileId = σ₁.files.get? Types.fileId
        ∧ ∀ pointer ns, σ.registry.status? pointer ns Types.fileId
          = σ₁.registry.status? pointer ns Types.fileId := by
  obtain ⟨σ₁, hrun, hend⟩ := Generation.runs_types_of_mem hp hσ ho
  refine ⟨σ₁, hrun, ?_⟩
  rcases hend with rfl | ⟨o', hlater⟩
  · exact ⟨rfl, fun _ _ => rfl⟩
  · exact (creates_run _ o' hlater).2 Types.fileId (by decide)

/-- A session with the generator of transformers runs it after the generator of types, which names
nothing in its file. -/
lemma exists_runs_of_session {config : Config} {p : Generation.Pipeline} {setting : Setting}
    {σ : Session} {options : TransformersOptions}
    (hp : Generation.Pipeline.ofConfig config = .ok p)
    (hmem : .transformers options ∈ config.generators) (hσ : p.session setting = .ok σ) :
    ∃ o σ₁, p = [.types o, .transformers options] ∧ Runs (Types.run setting o) {} () σ₁
      ∧ Runs (run setting options) σ₁ () σ
      ∧ ∀ pointer ns, σ₁.registry.status? pointer ns fileId = none := by
  obtain ⟨o, rfl⟩ := Generation.eq_of_ofConfig_of_mem hp hmem
  obtain ⟨_, σ₁, htypes, hrest⟩ := runs_bind_iff.mp (Generation.session_eq_ok_iff.mp hσ)
  obtain ⟨_, σ₂, htransformers, hend⟩ := runs_bind_iff.mp hrest
  obtain ⟨-, rfl⟩ := runs_pure_iff.mp hend
  exact ⟨o, σ₁, rfl, htypes, htransformers, fun pointer ns =>
    ((Types.creates_run _ o htypes).2 fileId (by decide)).2 pointer ns⟩

end OpenApiTypes.Transformers
