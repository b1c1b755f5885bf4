/-
Functions that share no name.

* `Transformers.TellApart`: options with templates that have different texts for different names;
* `Transformers.Function.SameAs`: functions of one component, or of one operation;
* `Transformers.TellApart.sameAs`: under such templates, only these are known under one reference;
* `Transformers.distinct_of_session`: under whatever templates, the names given for different
  references differ;
* `Transformers.apart_of_session`: so different functions of a finished session have different
  names, and basic templates that show the name are such templates, whatever renders them;
* `Transformers.exists_shared`: a template that holds the names of two components by itself gives
  both one function.
-/
import OpenApiTypes.Proofs.Naming.Injectivity
import OpenApiTypes.Proofs.Transformers.Frame
import OpenApiTypes.Proofs.Transformers.Module

namespace OpenApiTypes.Transformers

open OpenApiTypes.Generation (Keeps Pipeline Session Setting runs_addTo_iff runs_bind_iff
  runs_createFile_iff runs_pure_iff runs_request_iff runs_requireFile_iff runs_requireName_iff
  runs_suppress_iff runs_warn_iff)
open OpenApiTypes.Model
open OpenApiTypes.Output (Registry)
open OpenApiTypes.Config (TransformersOptions)
open OpenApiTypes.Template (Engine RendersBasic ShowsName TellsApart nameFor)

/-- Functions are for components of one name, or for operations of one id. -/
def Function.SameAs : Function → Function → Prop
  | .helper pointer, .helper pointer' => Pointer.schemaName? pointer = Pointer.schemaName? pointer'
  | .response op, .response op' => op.id = op'.id
  | _, _ => False

section

variable [Engine] {options : TransformersOptions} {api : Api} {setting : Setting}
  {f f' : Function} {p : String} {σ σ' : Session}

/-! ### References -/

/-- The templates for names have different texts for different names. -/
structure TellApart (options : TransformersOptions) : Prop where
  schemaName : TellsApart options.schemaName
  responseName : TellsApart options.responseName

/-- Functions that are known under one reference are the same. -/
lemma TellApart.sameAs (h : TellApart options) (hids : ∀ op ∈ api.operations, op.id ≠ "")
    (hf : f.BelongsTo api) (hf' : f'.BelongsTo api) (hreference : f.reference? options = some p)
    (hreference' : f'.reference? options = some p) : f.SameAs f' := by
  cases namedAlike_of_reference? hreference hreference' with
  | helper hcomponent hcomponent' hname hname' =>
    obtain rfl := h.schemaName _ _ _ (Pointer.schemaName?_ne_empty hcomponent)
      (Pointer.schemaName?_ne_empty hcomponent') hname hname'
    exact hcomponent.trans hcomponent'.symm
  | response hname hname' =>
    exact h.responseName _ _ _ (hids _ hf) (hids _ hf') hname hname'

/-! ### Distinct names -/

/-- The steps that the generator is made of keep the names of its file distinct. -/
lemma kept_distinct (setting : Setting) (options : TransformersOptions) :
    Kept setting options (fun σ => σ.registry.Distinct .value fileId) (fun _ _ => True)
      fun _ _ => True where
  warn := fun _ _ _ _ _ hrun hσ => by
    rw [← runs_warn_iff.mp hrun]
    exact hσ
  request := fun _ _ _ _ _ hrun hσ => by
    obtain ⟨-, rfl⟩ := runs_request_iff.mp hrun
    exact ⟨hσ.request _ _ _, fun _ _ => trivial⟩
  requireName := fun _ _ _ _ hrun hσ => by
    obtain ⟨-, rfl⟩ := runs_requireName_iff.mp hrun
    exact ⟨hσ, trivial⟩
  suppress := fun _ _ _ _ hrun hσ => by
    obtain ⟨r, hr, rfl⟩ := runs_suppress_iff.mp hrun
    exact hσ.suppress? hr
  helper := fun _ _ _ _ _ _ hrun hσ => by
    obtain ⟨file, -, rfl⟩ := runs_addTo_iff.mp hrun
    exact hσ
  transformer := fun _ _ _ _ _ _ _ hrun hσ => by
    obtain ⟨_, _, _, -, -, -, rfl⟩ := runs_addTransformer hrun
    exact hσ

/-- The names in the file of transformers are distinct at the end of a session. -/
lemma distinct_of_session {config : Config} {pipeline : Pipeline}
    (hp : Pipeline.ofConfig config = .ok pipeline)
    (hmem : .transformers options ∈ config.generators) (hσ : pipeline.session setting = .ok σ) :
    σ.registry.Distinct .value fileId := by
  obtain ⟨_, σ₁, -, -, hrun, hnames⟩ := exists_runs_of_session hp hmem hσ
  have hdistinct : σ₁.registry.Distinct .value fileId :=
    Registry.distinct_of_forall fun q => hnames q .value
  obtain ⟨_, σ₂, hrequire, hrest⟩ := runs_bind_iff.mp hrun
  obtain ⟨-, rfl⟩ := runs_requireFile_iff.mp hrequire
  obtain ⟨_, σ₃, hcreate, hrest⟩ := runs_bind_iff.mp hrest
  obtain rfl := runs_createFile_iff.mp hcreate
  exact (kept_distinct _ options).forEach hrest (hdistinct.registerFile _ _)

/-! ### Names -/

/-- Different functions are known under different references, and the names given for these differ
even in small letters. -/
def NamedApart (options : TransformersOptions) (api : Api) (r : Registry) : Prop :=
  ∀ (f f' : Function) p p', f.BelongsTo api → f'.BelongsTo api → ¬ f.SameAs f' →
    f.reference? options = some p → f'.reference? options = some p' →
    p ≠ p' ∧ ∀ e e', r.status? p .value fileId = some e → r.status? p' .value fileId = some e' →
      Text.lowercase e.name ≠ Text.lowercase e'.name

lemma TellApart.namedApart (h : TellApart options) (hids : ∀ op ∈ api.operations, op.id ≠ "")
    {r : Registry} (hr : r.Distinct .value fileId) : NamedApart options api r := by
  intro f f' p p' hf hf' hdifferent hreference hreference'
  have hp : p ≠ p' := by
    rintro rfl
    exact hdifferent (h.sameAs hids hf hf' hreference hreference')
  exact ⟨hp, fun e e' he he' hname => hp (hr.pointer_eq he he' hname)⟩

/-- Whatever renders templates, those that have different texts for different names keep functions
apart: different functions of a finished session have different names. If basic templates have the
texts that they are read to have, those that show the name are such templates, whatever else they
make of it. -/
theorem apart_of_session (hengine : RendersBasic) :
    (∀ template, Template.isBasic template = true → ShowsName template "Sample" →
      TellsApart template)
    ∧ ∀ options api config pipeline σ, TellApart options → (∀ op ∈ api.operations, op.id ≠ "") →
      Pipeline.ofConfig config = .ok pipeline → .transformers options ∈ config.generators →
      pipeline.session ⟨api, config⟩ = .ok σ → NamedApart options api σ.registry := by
  refine ⟨fun template hbasic hshows =>
    Template.tellsApart_of_showsName hengine hbasic (by decide) hshows, ?_⟩
  intro options api config pipeline σ happart hids hp hmem hσ
  exact happart.namedApart hids (distinct_of_session hp hmem hσ)

end

/-- Two components whose names differ in a capital only, in one response. -/
def sameLetters : Api :=
  modelOf [("V", { shape := some .string, facets := { format := some "date-time" } }),
      ("v", { shape := some .string, facets := { format := some "date" } })]
    [answering "/a" "a"
      (.composed [.reference "#/components/schemas/V", .reference "#/components/schemas/v"] .and)]

/-- Templates that also put the name in capitals and in small letters. -/
def filteredNames : TransformersOptions where
  schemaName := "\x7b\x7b name|upper ~ name \x7d\x7d"
  responseName := "\x7b\x7b name|lower \x7d\x7d\x7b\x7b name \x7d\x7d"

theorem apart_of_session_sameLetters :
    RendersBasic ∧ TellApart filteredNames
    ∧ ∃ p σ, Pipeline.ofConfig { generators := [.transformers filteredNames] } = .ok p
      ∧ p.session ⟨sameLetters, { generators := [.transformers filteredNames] }⟩ = .ok σ
      ∧ NamedApart filteredNames sameLetters σ.registry
      ∧ (σ.registry.name? (helperReference "VV") .value fileId,
          σ.registry.name? (helperReference "Vv") .value fileId)
        = (some "vv", some "vv2") := by
  have hengine : RendersBasic := Template.rendersBasic
  have happart : TellApart filteredNames :=
    ⟨(apart_of_session hengine).1 _ (by decide +kernel) (by decide +kernel),
      (apart_of_session hengine).1 _ (by decide +kernel) (by decide +kernel)⟩
  have hconfig : Pipeline.ofConfig { generators := [.transformers filteredNames] }
      = .ok [.types {}, .transformers filteredNames] := rfl
  have hgiven : ((Pipeline.session [.types {}, .transformers filteredNames]
      ⟨sameLetters, { generators := [.transformers filteredNames] }⟩).toOption.map fun σ =>
        (σ.registry.name? (helperReference "VV") .value fileId,
          σ.registry.name? (helperReference "Vv") .value fileId))
      = some (some "vv", some "vv2") := by decide +kernel
  obtain ⟨σ, hσ, hgiven⟩ := Option.map_eq_some_iff.mp hgiven
  have hsession := Generation.eq_ok_of_toOption hσ
  exact ⟨hengine, happart, _, σ, hconfig, hsession,
    (apart_of_session hengine).2 filteredNames sameLetters _ _ σ happart (by decide) hconfig
      (List.mem_singleton_self _) hsession, hgiven⟩

/-- A template without the name. -/
def constantName : TransformersOptions := { schemaName := "PetOwner" }

/-- A template that holds the names of two components by itself gives one text for both, and so does
one that prints the name in capitals and in small letters only. The components then share one
function. -/
theorem exists_shared :
    (∃ template name other text, name ≠ other ∧ nameFor template name = .ok text
      ∧ nameFor template other = .ok text)
    ∧ (∃ p, (Function.helper "#/components/schemas/Pet").reference? constantName = some p
      ∧ (Function.helper "#/components/schemas/Owner").reference? constantName = some p)
    ∧ nameFor "\x7b\x7b name|upper ~ name|lower \x7d\x7d" "A" = .ok "Aa"
    ∧ nameFor "\x7b\x7b name|upper ~ name|lower \x7d\x7d" "a" = .ok "Aa" := by
  have hpet : nameFor "PetOwner" "Pet" = .ok "PetOwner" := by decide +kernel
  have howner : nameFor "PetOwner" "Owner" = .ok "PetOwner" := by decide +kernel
  exact ⟨⟨_, "Pet", "Owner", _, by decide, hpet, howner⟩,
    ⟨helperReference "PetOwner", by decide +kernel, by decide +kernel⟩, by decide +kernel,
    by decide +kernel⟩

end OpenApiTypes.Transformers
