/-
What the check of a configuration says about the names to come.

* `Generation.exists_nameFor_of_check`: it has tried each template on one name;
* `Generation.templates_of_check`: so basic templates can be rendered for all names, and give a name
  for each exactly if they show it. No run of generators fails under templates that give a name for
  each;
* `Generation.exists_unshown`: a template that holds the name it is tried on passes as well.
-/
import OpenApiTypes.Proofs.Generation.Failures
import OpenApiTypes.Proofs.Naming.Rendering

namespace OpenApiTypes.Generation

open OpenApiTypes.Config (Generator GeneratorKind TransformersOptions)
open OpenApiTypes.Model
open OpenApiTypes.Template (Engine RendersBasic ShowsName nameFor)

section

variable [Engine] {api : Api} {config : Config} {o : TransformersOptions} {p : Pipeline}

/-! ### The check -/

lemma check_of_forM {generators : List Generator} (h : generators.forM Generator.check = .ok ())
    {g : Generator} (hg : g ∈ generators) : g.check = .ok () := by
  induction generators with
  | nil => simp at hg
  | cons first rest ih =>
    rw [show (first :: rest).forM Generator.check = do
      first.check; rest.forM Generator.check from List.forM_cons] at h
    cases hfirst : first.check with
    | error problem => simp [hfirst, bind, Except.bind] at h
    | ok u =>
      rw [hfirst] at h
      rcases List.mem_cons.mp hg with rfl | hg
      · exact hfirst
      · exact ih h hg

/-- A configuration that is accepted has templates that give a name for `Sample`. -/
lemma exists_nameFor_of_check (h : config.check = .ok ())
    (ho : .transformers o ∈ config.generators) {template : String}
    (htemplate : template ∈ [o.schemaName, o.responseName]) :
    ∃ text, nameFor template "Sample" = .ok text := by
  have hgenerators : config.generators.forM Generator.check = .ok () := by
    rw [Config.check] at h
    split at h
    · simp at h
    · split at h
      · simp at h
      · exact h
  have hcheck : Generator.check (.transformers o) = .ok () := check_of_forM hgenerators ho
  rw [Generator.check] at hcheck
  cases hschema : Config.renderName GeneratorKind.transformers.name o.schemaName "Sample" with
  | error problem => simp [hschema, bind, Except.bind] at hcheck
  | ok schema =>
    cases hresponse :
      Config.renderName GeneratorKind.transformers.name o.responseName "Sample" with
    | error problem => simp [hschema, hresponse, bind, Except.bind] at hcheck
    | ok response =>
      rcases List.mem_pair.mp htemplate with rfl | rfl
      · exact ⟨schema, Transformers.nameFor_of_renderName hschema⟩
      · exact ⟨response, Transformers.nameFor_of_renderName hresponse⟩

/-- What the check of a configuration assures, whatever renders templates, if basic templates have
the texts that they are read to have: whatever name comes, no basic template fails to be rendered.
Such a template gives a name for each exactly if it shows the name, which the check does not look
for. If the templates of components and of operations, basic or not, give names for those that a
model may have, and has, no run of generators fails on it. -/
theorem templates_of_check (hengine : RendersBasic) (h : config.check = .ok ()) :
    (∀ o, .transformers o ∈ config.generators → ∀ template ∈ [o.schemaName, o.responseName],
      Template.isBasic template = true →
        (∀ name, nameFor template name ≠ .error .malformed)
          ∧ ((∀ name, ∃ text, nameFor template name = .ok text) ↔ ShowsName template "Sample"))
    ∧ ∀ p, Pipeline.ofConfig config = .ok p → ∀ api : Api,
      (∀ o, .transformers o ∈ config.generators →
        (∀ name ≠ "", ∃ text, nameFor o.schemaName name = .ok text)
          ∧ ∀ op ∈ api.operations, ∃ text, nameFor o.responseName op.id = .ok text) →
      ∃ result, p.generate ⟨api, config⟩ = .ok result := by
  refine ⟨fun o ho template htemplate hbasic => ?_, fun p hp api hnames => ?_⟩
  · obtain ⟨text, htext⟩ := exists_nameFor_of_check h ho htemplate
    exact ⟨Template.nameFor_ne_malformed hengine hbasic htext,
      Template.nameFor_ok_iff hengine hbasic (by decide) htext⟩
  · cases hgenerate : p.generate ⟨api, config⟩ with
    | ok result => exact ⟨result, rfl⟩
    | error failure =>
      obtain ⟨o, ho, template, name, hrendered, fault, hfault, -⟩ :=
        exists_faultFor_of_session hp (session_eq_error_of_generate hgenerate)
      obtain ⟨hschema, hresponse⟩ := hnames o (mem_generators_of_ofConfig hp ho)
      cases hrendered with
      | schema hname =>
        obtain ⟨text, htext⟩ := hschema name (Pointer.schemaName?_ne_empty hname)
        simp [htext] at hfault
      | response hop =>
        obtain ⟨text, htext⟩ := hresponse _ hop
        simp [htext] at hfault

end

/-- One operation that answers with the time of a visit. -/
def lastVisit : Api where
  paths := [("/visits/last", [(.get, {
    id := "lastVisit", method := .get, path := "/visits/last", operationId := none, summary := none
    description := none, deprecated := false, tags := [], parameters := {}, body := none
    responses := [("200", ⟨some "application/json", none,
      { Schema.ofShape .string with facets := { format := some "date-time" } }⟩)]
    security := [], servers := [] })])]

/-- Transformers named after what they are for, in templates with a condition, filters and a
comment. -/
def describedNames : Config := {
  generators := [.transformers {
    schemaName := "\x7b% if name|upper %\x7d\x7b\x7b name \x7d\x7dParser\x7b% endif %\x7d"
    responseName := "\x7b\x7b name|upper ~ name \x7d\x7d\x7b# for responses #\x7d" }] }

theorem templates_of_check_describedNames :
    RendersBasic ∧ describedNames.check = .ok ()
      ∧ ∃ p result, Pipeline.ofConfig describedNames = .ok p
        ∧ p.generate ⟨lastVisit, describedNames⟩ = .ok result := by
  have hengine : RendersBasic := Template.rendersBasic
  have hcheck : describedNames.check = .ok () := by decide +kernel
  have hp : Pipeline.ofConfig describedNames = .ok _ := rfl
  have hnames : ∀ o, .transformers o ∈ describedNames.generators →
      ∀ template ∈ [o.schemaName, o.responseName], ∀ name, ∃ text,
        nameFor template name = .ok text := by
    intro o ho template htemplate
    refine (((templates_of_check hengine hcheck).1 o ho template htemplate ?_).2).mpr ?_
    all_goals
      obtain rfl := Generator.transformers.inj (List.mem_singleton.mp ho)
      rcases List.mem_pair.mp htemplate with rfl | rfl <;> decide +kernel
  obtain ⟨result, hresult⟩ := (templates_of_check hengine hcheck).2 _ hp lastVisit fun o ho =>
    ⟨fun name _ => hnames o ho _ List.mem_cons_self name,
      fun op _ => hnames o ho _ (List.mem_cons_of_mem _ List.mem_cons_self) op.id⟩
  exact ⟨hengine, hcheck, _, result, hp, hresult⟩

/-- A template of nothing but the name that templates are tried on. -/
def sampleName : Config := { generators := [.transformers { responseName := "Sample" }] }

/-- A template that holds the name it is tried on passes, and fails when a name comes. -/
theorem exists_unshown :
    sampleName.check = .ok () ∧ nameFor "Sample" "lastVisit" = .error .unreferenced
      ∧ ∃ p failure, Pipeline.ofConfig sampleName = .ok p
        ∧ p.generate ⟨lastVisit, sampleName⟩ = .error failure
        ∧ failure = .config (.invalidTemplate "transformers" "Sample" .unreferenced) := by
  have hp : Pipeline.ofConfig sampleName
      = .ok [.types {}, .transformers { responseName := "Sample" }] := rfl
  have hfailure : ((Pipeline.generate [.types {}, .transformers { responseName := "Sample" }]
      ⟨lastVisit, sampleName⟩).map fun _ => ())
        = .error (.config (.invalidTemplate "transformers" "Sample" .unreferenced)) := by
    decide +kernel
  cases h : Pipeline.generate [.types {}, .transformers { responseName := "Sample" }]
      ⟨lastVisit, sampleName⟩ with
  | ok result => simp [h, Except.map] at hfailure
  | error failure =>
    rw [h] at hfailure
    exact ⟨by decide +kernel, by decide +kernel, _, failure, hp, h, Except.error.inj hfailure⟩

end OpenApiTypes.Generation
