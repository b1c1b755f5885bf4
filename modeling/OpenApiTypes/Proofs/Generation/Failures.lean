/-
Why a run of generators fails.

* `Generation.exists_templateFault_of_generate`: whatever the model and whatever renders templates,
  a run of generators fails for no reason but a template of the generator of transformers that gives
  no name. Neither a file nor a name is ever missing.
-/
import OpenApiTypes.Proofs.Generation.Pipeline
import OpenApiTypes.Proofs.Transformers.Failures

namespace OpenApiTypes.Generation

open OpenApiTypes.Model
open OpenApiTypes.Transformers (FaultFor TemplateFault)

section

variable [Template.Engine] {api : Api} {config : Config} {p : Pipeline} {setting : Setting}
  {failure : Failure}

/-- What the generator of types leaves behind is all that the generator of transformers needs. -/
lemma ensures_pipeline (o : Config.TypesOptions) (o' : Config.TransformersOptions) :
    Ensures (FaultFor o' setting.model) (fun σ => σ.registry.Unwithdrawn Types.fileId)
      (List.forM [.types o, .transformers o'] (runGenerator setting)) fun _ _ => True := by
  have hevent : ∀ op ∈ setting.model.operations, ∀ t ∈ Types.operationTypes op,
      Types.Declared.operation op.id t
        ∈ (Types.typeEvents setting.model).flatMap Types.declaredTypes := by
    intro op hop t ht
    refine List.mem_flatMap.mpr ⟨.operation op, ?_, List.mem_map_of_mem ht⟩
    rw [Types.typeEvents_eq]
    exact List.mem_append_left _ (List.mem_append_right _ (List.mem_map_of_mem hop))
  exact (Types.ensures_run setting o).bind fun _ =>
    (Transformers.ensures_run setting o' hevent).bind fun _ =>
      .pure fun _ _ => trivial

lemma exists_faultFor_of_session (hp : Pipeline.ofConfig config = .ok p)
    (h : p.session setting = .error failure) :
    ∃ o, .transformers o ∈ p ∧ FaultFor o setting.model failure := by
  obtain ⟨σ, hfailure⟩ := exists_outcome_of_session h
  have hstart : ({} : Session).registry.Unwithdrawn Types.fileId :=
    Output.Registry.unwithdrawn_nil _
  rcases eq_of_ofConfig hp with rfl | ⟨o, rfl⟩ | ⟨o, o', rfl⟩
  · have hnothing : Ensures (fun _ => False) (fun _ => True)
        (List.forM [] (runGenerator setting)) fun _ _ => True := .pure fun _ h => h
    exact (hnothing.failure trivial hfailure).elim
  · have htypes : Ensures (fun _ => False) (fun σ => σ.registry.Unwithdrawn Types.fileId)
        (List.forM [.types o] (runGenerator setting)) fun _ _ => True :=
      (Types.ensures_run setting o).bind fun _ => .pure fun _ _ => trivial
    exact (htypes.failure hstart hfailure).elim
  · exact ⟨o', by simp, (ensures_pipeline o o').failure hstart hfailure⟩

/-- A run fails where its generators do. -/
lemma session_eq_error_of_generate (h : p.generate ⟨api, config⟩ = .error failure) :
    p.session ⟨api, config⟩ = .error failure := by
  rw [Pipeline.generate] at h
  cases hsession : p.session ⟨api, config⟩ with
  | ok σ => simp [hsession, bind, Except.bind, pure, Except.pure] at h
  | error failure' =>
    rw [hsession] at h
    exact congrArg _ (Except.error.inj h)

lemma exists_templateFault_of_session (hp : Pipeline.ofConfig config = .ok p)
    (h : p.session setting = .error failure) :
    ∃ o, .transformers o ∈ p ∧ TemplateFault o failure := by
  obtain ⟨o, ho, hfault⟩ := exists_faultFor_of_session hp h
  exact ⟨o, ho, hfault.templateFault⟩

/-- Whatever the model, a run of generators fails for no reason but a template of the generator of
transformers that gives no name for something. -/
theorem exists_templateFault_of_generate (hp : Pipeline.ofConfig config = .ok p)
    (h : p.generate ⟨api, config⟩ = .error failure) :
    ∃ o, .transformers o ∈ p ∧ TemplateFault o failure := by
  unfold Pipeline.generate at h
  cases hsession : p.session ⟨api, config⟩ with
  | ok σ => simp [hsession, bind, Except.bind, pure, Except.pure] at h
  | error failure' =>
    rw [hsession] at h
    obtain rfl : failure' = failure := Except.error.inj h
    exact exists_templateFault_of_session hp hsession

end

/-- One operation that answers with a text. -/
def answeringText : Api where
  paths := [("/a", [(.get, {
    id := "a", method := .get, path := "/a", operationId := none, summary := none
    description := none, deprecated := false, tags := [], parameters := {}, body := none
    responses := [("200", ⟨some "application/json", none, .ofShape .string⟩)]
    security := [], servers := [] })])]

/-- Transformers all of which are to have one name. -/
def oneName : Config := { generators := [.transformers { responseName := "convert" }] }

theorem exists_templateFault_of_generate_oneName :
    ∃ p failure, Pipeline.ofConfig oneName = .ok p
      ∧ p.generate ⟨answeringText, oneName⟩ = .error failure
      ∧ failure = .config (.invalidTemplate "transformers" "convert" .unreferenced)
      ∧ ∃ o, .transformers o ∈ p ∧ TemplateFault o failure := by
  have hp : Pipeline.ofConfig oneName
      = .ok [.types {}, .transformers { responseName := "convert" }] := rfl
  have hfailure : ((Pipeline.generate [.types {}, .transformers { responseName := "convert" }]
      ⟨answeringText, oneName⟩).map fun _ => ())
        = .error (.config (.invalidTemplate "transformers" "convert" .unreferenced)) := by
    decide +kernel
  cases h : Pipeline.generate [.types {}, .transformers { responseName := "convert" }]
      ⟨answeringText, oneName⟩ with
  | ok result => simp [h, Except.map] at hfailure
  | error failure =>
    rw [h] at hfailure
    exact ⟨_, failure, hp, h, Except.error.inj hfailure, exists_templateFault_of_generate hp h⟩

end OpenApiTypes.Generation
