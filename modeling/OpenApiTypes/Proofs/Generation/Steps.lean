/-
Steps of a run, and what they need in order not to fail.

* `Generation.Runs`: a step leads from one session to another and gives a result;
* `Generation.runs_bind_iff`: a sequence of steps, taken apart;
* `Generation.Runs.forM_induction`: a property that every step of a walk preserves;
  `Generation.Runs.exists_of_mem`: a walk before and after one of its steps;
* `Generation.runs_addTo_iff`, `Generation.runs_request_iff`, …: what each single step does;
* `Generation.Ensures`: from a session with a property, a step leads to one with another property,
  unless it fails for an allowed reason;
* `Generation.Ensures.bind`, `Generation.Ensures.mapM`, `Generation.Ensures.forM_induction`: such
  steps one after the other;
* `Generation.Ensures.failure`: the reasons for which a step does fail are allowed;
* `Generation.eventsOf_eq`: the entries of certain kinds, kind by kind;
  `Generation.forEach_operation`: a step for each operation.
-/
import OpenApiTypes.Generation.Pipeline
import OpenApiTypes.Proofs.Output.Registry

namespace OpenApiTypes.Generation

open OpenApiTypes.Model
open OpenApiTypes.Output (Identifier Namespace Registry)

variable {α β : Type} {σ σ' : Session}

/-- The result of a step, or why there is none, and the session it leaves behind. -/
def outcome (x : Generation α) (σ : Session) : Except Failure α × Session :=
  (StateT.run (ExceptT.run x) σ).run

/-- A step leads from one session to another and gives a result. -/
def Runs (x : Generation α) (σ : Session) (a : α) (σ' : Session) : Prop :=
  outcome x σ = (.ok a, σ')

/-! ### Sequences -/

@[simp] lemma runs_pure_iff {a b : α} :
    Runs (pure a : Generation α) σ b σ' ↔ a = b ∧ σ = σ' := by
  show ((Except.ok a : Except Failure α), σ) = (.ok b, σ') ↔ _
  simp

@[simp] lemma not_runs_throw {failure : Failure} {a : α} :
    ¬ Runs (throw failure : Generation α) σ a σ' := by
  show ((Except.error failure : Except Failure α), σ) ≠ (.ok a, σ')
  simp

lemma outcome_bind (x : Generation α) (f : α → Generation β) (σ : Session) :
    outcome (x >>= f) σ = match outcome x σ with
      | (.ok a, σ₁) => outcome (f a) σ₁
      | (.error failure, σ₁) => (.error failure, σ₁) := by
  rcases h : outcome x σ with ⟨result, σ₁⟩
  have hx : StateT.run (ExceptT.run x) σ = pure (result, σ₁) := h
  rw [outcome, ExceptT.run_bind, StateT.run_bind, hx]
  cases result <;> rfl

/-- A sequence of two steps has a session in its middle. -/
@[simp] lemma runs_bind_iff {x : Generation α} {f : α → Generation β} {b : β} :
    Runs (x >>= f) σ b σ' ↔ ∃ a σ₁, Runs x σ a σ₁ ∧ Runs (f a) σ₁ b σ' := by
  simp only [Runs, outcome_bind]
  obtain ⟨result, σ₁⟩ := outcome x σ
  cases result with
  | error failure => simp
  | ok a =>
    constructor
    · exact fun h => ⟨a, σ₁, rfl, h⟩
    · rintro ⟨a', σ₂, heq, h⟩
      obtain ⟨rfl, rfl⟩ : a = a' ∧ σ₁ = σ₂ := by simpa using heq
      exact h

@[simp] lemma runs_map_iff {x : Generation α} {f : α → β} {b : β} :
    Runs (f <$> x) σ b σ' ↔ ∃ a, Runs x σ a σ' ∧ f a = b := by
  rw [map_eq_pure_bind, runs_bind_iff]
  constructor
  · rintro ⟨a, σ₁, h, hpure⟩
    obtain ⟨rfl, rfl⟩ := runs_pure_iff.mp hpure
    exact ⟨a, h, rfl⟩
  · rintro ⟨a, h, rfl⟩
    exact ⟨a, σ', h, runs_pure_iff.mpr ⟨rfl, rfl⟩⟩

@[simp] lemma runs_get_iff {τ : Session} :
    Runs (get : Generation Session) σ τ σ' ↔ σ = τ ∧ σ = σ' := by
  show ((Except.ok σ : Except Failure Session), σ) = (.ok τ, σ') ↔ _
  simp

@[simp] lemma runs_set_iff {τ : Session} {u : Unit} :
    Runs (set τ : Generation PUnit) σ u σ' ↔ τ = σ' := by
  show ((Except.ok () : Except Failure PUnit), τ) = (.ok u, σ') ↔ _
  simp

@[simp] lemma runs_modify_iff {f : Session → Session} {u : Unit} :
    Runs (modify f : Generation PUnit) σ u σ' ↔ f σ = σ' := by
  show ((Except.ok () : Except Failure PUnit), f σ) = (.ok u, σ') ↔ _
  simp

/-- What every step of a walk preserves, the walk preserves. -/
lemma Runs.forM_induction {l : List α} {step : α → Generation Unit}
    {motive : List α → Session → Prop} {u : Unit} (h : Runs (l.forM step) σ u σ')
    (nil : motive [] σ)
    (cons : ∀ done a σ₁ σ₂, done ++ [a] <+: l → motive done σ₁ → Runs (step a) σ₁ () σ₂ →
      motive (done ++ [a]) σ₂) : motive l σ' := by
  have key : ∀ rest done σ₁, done ++ rest = l → motive done σ₁ →
      Runs (rest.forM step) σ₁ u σ' → motive l σ' := by
    intro rest
    induction rest with
    | nil =>
      intro done σ₁ hl hdone hrun
      obtain ⟨-, rfl⟩ := runs_pure_iff.mp hrun
      simpa [← hl] using hdone
    | cons a rest ih =>
      intro done σ₁ hl hdone hrun
      obtain ⟨_, σ₂, hstep, hrest⟩ := runs_bind_iff.mp hrun
      have hsplit : done ++ [a] ++ rest = l := by simpa using hl
      exact ih (done ++ [a]) σ₂ hsplit (cons done a σ₁ σ₂ ⟨rest, hsplit⟩ hdone hstep) hrest
  exact key l [] σ rfl nil h

/-- A walk comes to everything on its way. -/
lemma Runs.exists_of_mem {l : List α} {step : α → Generation Unit} {a : α} {u : Unit}
    (h : Runs (l.forM step) σ u σ') (ha : a ∈ l) : ∃ front rest σ₁ σ₂, l = front ++ a :: rest
      ∧ Runs (front.forM step) σ () σ₁ ∧ Runs (step a) σ₁ () σ₂
      ∧ Runs (rest.forM step) σ₂ u σ' := by
  obtain ⟨front, rest, rfl⟩ := List.append_of_mem ha
  change Runs (forM (front ++ a :: rest) step) σ u σ' at h
  rw [List.forM_append] at h
  obtain ⟨_, σ₁, hfront, h⟩ := runs_bind_iff.mp h
  obtain ⟨_, σ₂, hstep, hrest⟩ := runs_bind_iff.mp h
  exact ⟨front, rest, σ₁, σ₂, rfl, hfront, hstep, hrest⟩

/-! ### Single steps -/

@[simp] lemma runs_ofConfig_iff {x : Except Config.Problem α} {a : α} :
    Runs (ofConfig x) σ a σ' ↔ x = .ok a ∧ σ = σ' := by
  cases x <;> simp [ofConfig]

@[simp] lemma runs_ofNames_iff {step : StateM Registry α} {a : α} :
    Runs (ofNames step) σ a σ' ↔
      (step.run σ.registry).1 = a ∧ { σ with registry := (step.run σ.registry).2 } = σ' := by
  show ((Except.ok (step.run σ.registry).1 : Except Failure α),
    { σ with registry := (step.run σ.registry).2 }) = (.ok a, σ') ↔ _
  simp

@[simp] lemma runs_createFile_iff {setting : Setting} {id name : String}
    {convention : NamingConvention} {exportFromIndex : Bool} {u : Unit} :
    Runs (createFile setting id name convention exportFromIndex) σ u σ' ↔
      { σ with
        registry := σ.registry.registerFile id convention
        files := σ.files.put id
          (.create id name setting.config.outputOptions.header exportFromIndex) } = σ' := by
  simp [createFile]

@[simp] lemma runs_requireFile_iff {generator id : String} {file : Output.File} :
    Runs (requireFile generator id) σ file σ' ↔ σ.files.get? id = some file ∧ σ = σ' := by
  simp only [requireFile, runs_bind_iff, runs_get_iff]
  constructor
  · rintro ⟨_, _, ⟨rfl, rfl⟩, h⟩
    split at h <;> simp_all
  · rintro ⟨h, rfl⟩
    exact ⟨σ, σ, ⟨rfl, rfl⟩, by simp [h]⟩

@[simp] lemma runs_storeFile_iff {id : String} {file : Output.File} {u : Unit} :
    Runs (storeFile id file) σ u σ' ↔ { σ with files := σ.files.put id file } = σ' := by
  simp [storeFile]

/-- A statement is added to a file that is there. -/
lemma runs_addTo_iff {generator id : String} {s : TypeScript.Stmt} {u : Unit} :
    Runs (addTo generator id s) σ u σ' ↔
      ∃ file, σ.files.get? id = some file
        ∧ { σ with files := σ.files.put id (file.add s) } = σ' := by
  simp [addTo, and_assoc]

lemma runs_request_iff {file pointer : String} {ns : Namespace} {creates : Bool}
    {i : Identifier} :
    Runs (request file pointer ns creates) σ i σ' ↔
      (σ.registry.request pointer ns file creates).1 = i
        ∧ { σ with registry := (σ.registry.request pointer ns file creates).2 } = σ' :=
  runs_ofNames_iff

@[simp] lemma runs_requireName_iff {file pointer : String} {ns : Namespace} {name : String} :
    Runs (requireName file pointer ns) σ name σ' ↔
      σ.registry.name? pointer ns file = some name ∧ σ = σ' := by
  simp only [requireName, runs_bind_iff, runs_get_iff]
  constructor
  · rintro ⟨_, _, ⟨rfl, rfl⟩, h⟩
    split at h <;> simp_all
  · rintro ⟨h, rfl⟩
    exact ⟨σ, σ, ⟨rfl, rfl⟩, by simp [h]⟩

lemma runs_suppress_iff {file pointer : String} {ns : Namespace} {u : Unit} :
    Runs (suppress file pointer ns) σ u σ' ↔
      ∃ r, σ.registry.suppress? pointer ns file = some r ∧ { σ with registry := r } = σ' := by
  simp only [suppress, runs_bind_iff, runs_get_iff]
  constructor
  · rintro ⟨_, _, ⟨rfl, rfl⟩, h⟩
    split at h <;> simp_all
  · rintro ⟨r, h, rfl⟩
    exact ⟨σ, σ, ⟨rfl, rfl⟩, by simp [h]⟩

lemma runs_warn_iff {location message : String} {u : Unit} :
    Runs (warn location message) σ u σ' ↔
      { σ with diagnostics := σ.diagnostics ++ [⟨location, message⟩] } = σ' := by
  simp [warn]

/-! ### Steps that fail for allowed reasons only -/

section

variable {allowed : Failure → Prop} {before before' : Session → Prop}

/-- From a session with a property, a step leads to one with another property, unless it fails for
an allowed reason. -/
def Ensures (allowed : Failure → Prop) (before : Session → Prop) (x : Generation α)
    (after : α → Session → Prop) : Prop :=
  ∀ ⦃σ⦄, before σ → match outcome x σ with
    | (.ok a, σ') => after a σ'
    | (.error failure, _) => allowed failure

namespace Ensures

variable {x : Generation α} {after after' : α → Session → Prop}

/-- A step that gives a result wherever the property holds. -/
lemma of_runs (h : ∀ σ, before σ → ∃ a σ', Runs x σ a σ' ∧ after a σ') :
    Ensures allowed before x after := by
  intro σ hσ
  obtain ⟨a, σ', hrun, hafter⟩ := h σ hσ
  rw [Runs] at hrun
  simpa only [hrun] using hafter

lemma pure {a : α} (h : ∀ σ, before σ → after a σ) :
    Ensures allowed before (Pure.pure a) after :=
  of_runs fun σ hσ => ⟨a, σ, runs_pure_iff.mpr ⟨rfl, rfl⟩, h σ hσ⟩

/-- A problem with the configuration has to be an allowed reason. -/
lemma ofConfig {y : Except Config.Problem α} (h : ∀ problem, y = .error problem →
      allowed (.config problem)) :
    Ensures allowed before (Generation.ofConfig y) fun a σ => y = .ok a ∧ before σ := by
  intro σ hσ
  cases hy : y with
  | error problem => exact h problem hy
  | ok a => exact ⟨rfl, hσ⟩

/-- A warning changes nothing but the warnings. -/
lemma warn (location message : String) (h : ∀ σ, before σ → before
      { σ with diagnostics := σ.diagnostics ++ [⟨location, message⟩] }) :
    Ensures allowed before (Generation.warn location message) fun _ => before :=
  of_runs fun σ hσ => ⟨(), _, runs_warn_iff.mpr rfl, h σ hσ⟩

lemma weaken (hx : Ensures allowed before x after) (hbefore : ∀ σ, before' σ → before σ)
    (hafter : ∀ a σ, after a σ → after' a σ) : Ensures allowed before' x after' := by
  intro σ hσ
  have := hx (hbefore σ hσ)
  rcases hx : outcome x σ with ⟨_ | a, σ'⟩ <;> rw [hx] at this
  · exact this
  · exact hafter a σ' this

lemma bind {f : α → Generation β} {last : β → Session → Prop}
    (hx : Ensures allowed before x after) (hf : ∀ a, Ensures allowed (after a) (f a) last) :
    Ensures allowed before (x >>= f) last := by
  intro σ hσ
  have hfirst := hx hσ
  rw [outcome_bind]
  rcases hx : outcome x σ with ⟨_ | a, σ₁⟩ <;> rw [hx] at hfirst
  · exact hfirst
  · exact hf a hfirst

lemma mapM {l : List α} {f : α → Generation β}
    (h : ∀ a ∈ l, Ensures allowed before (f a) fun _ => before) :
    Ensures allowed before (l.mapM f) fun _ => before := by
  induction l with
  | nil => exact .pure fun _ h => h
  | cons a l ih =>
    rw [List.mapM_cons]
    exact (h a List.mem_cons_self).bind fun b =>
      (ih fun a ha => h a (List.mem_cons_of_mem _ ha)).bind fun bs => .pure fun _ h => h

/-- What every step of a walk ensures from what the steps before it ensure, the walk ensures. -/
lemma forM_induction {l : List α} {step : α → Generation Unit} {motive : List α → Session → Prop}
    (cons : ∀ done a, done ++ [a] <+: l →
      Ensures allowed (motive done) (step a) fun _ => motive (done ++ [a])) :
    Ensures allowed (motive []) (l.forM step) fun _ => motive l := by
  have key : ∀ rest done, done ++ rest = l →
      Ensures allowed (motive done) (rest.forM step) fun _ => motive l := by
    intro rest
    induction rest with
    | nil =>
      intro done hl
      obtain rfl : done = l := by simpa using hl
      exact .pure fun _ h => h
    | cons a rest ih =>
      intro done hl
      have hsplit : done ++ [a] ++ rest = l := by simpa using hl
      exact (cons done a ⟨rest, hsplit⟩).bind fun _ => ih (done ++ [a]) hsplit
  exact key l [] rfl

/-- The reason for which a step fails is allowed. -/
lemma failure {failure : Failure} {σ' : Session} (hx : Ensures allowed before x after)
    (hσ : before σ) (h : outcome x σ = (.error failure, σ')) : allowed failure := by
  have := hx hσ
  rwa [h] at this

end Ensures

end

/-! ### Pipelines -/

lemma session_eq_ok_iff [Template.Engine] {p : Pipeline} {setting : Setting} :
    p.session setting = .ok σ ↔ Runs (p.forM (runGenerator setting)) {} () σ := by
  have hsession : p.session setting = match outcome (p.forM (runGenerator setting)) {} with
      | (.ok (), session) => .ok session
      | (.error failure, _) => .error failure := rfl
  rw [hsession, Runs]
  split <;> simp_all

lemma exists_outcome_of_session [Template.Engine] {p : Pipeline} {setting : Setting}
    {failure : Failure} (h : p.session setting = .error failure) :
    ∃ σ, outcome (p.forM (runGenerator setting)) {} = (.error failure, σ) := by
  have hsession : p.session setting = match outcome (p.forM (runGenerator setting)) {} with
      | (.ok (), session) => .ok session
      | (.error failure, _) => .error failure := rfl
  rw [hsession] at h
  split at h
  · simp at h
  · rename_i σ hout
    obtain rfl := Except.error.inj h
    exact ⟨σ, hout⟩

/-! ### Entries -/

/-- The entries of a list if their kind is wanted. -/
def entriesOf {α : Type} (kinds : List EventKind) (kind : EventKind) (event : α → Event)
    (l : List α) : List Event :=
  if kinds.contains kind then l.map event else []

lemma filter_map_event {α : Type} (kinds : List EventKind) (kind : EventKind) (event : α → Event)
    (h : ∀ a, (event a).kind = kind) (l : List α) :
    (l.map event).filter (fun e => kinds.contains e.kind) = entriesOf kinds kind event l := by
  unfold entriesOf
  split
  · rename_i hkind
    refine List.filter_eq_self.mpr fun e he => ?_
    obtain ⟨a, -, rfl⟩ := List.mem_map.mp he
    rwa [h]
  · rename_i hkind
    refine List.filter_eq_nil_iff.mpr fun e he => ?_
    obtain ⟨a, -, rfl⟩ := List.mem_map.mp he
    rwa [h]

/-- The entries of certain kinds, kind by kind. -/
lemma eventsOf_eq (api : Api) (kinds : List EventKind) :
    eventsOf api kinds = entriesOf kinds .server .server api.servers
      ++ entriesOf kinds .schema (fun (name, s) => .schema name s) api.catalog
      ++ entriesOf kinds .parameter (fun (name, p) => .parameter name p) api.components.parameters
      ++ entriesOf kinds .requestBody (fun (name, b) => .requestBody name b) api.components.bodies
      ++ entriesOf kinds .operation .operation api.operations
      ++ api.webhooks.flatMap fun (name, operations) =>
        entriesOf kinds .webhook (.webhook name) operations.values := by
  rw [eventsOf, events]
  simp only [List.filter_append, List.filter_flatMap]
  rw [filter_map_event kinds .server _ fun _ => rfl, filter_map_event kinds .schema _ fun _ => rfl,
    filter_map_event kinds .parameter _ fun _ => rfl,
    filter_map_event kinds .requestBody _ fun _ => rfl,
    filter_map_event kinds .operation _ fun _ => rfl]
  congr 2
  funext group
  exact filter_map_event kinds .webhook _ (fun _ => rfl) _

lemma forEach_operation (setting : Setting) (step : Event → Generation Unit) :
    forEach setting [.operation] step
      = setting.model.operations.forM fun op => step (.operation op) := by
  have hevents : eventsOf setting.model [.operation] = setting.model.operations.map .operation := by
    simp [eventsOf_eq, entriesOf]
  rw [forEach, hevents]
  exact List.forM_map

end OpenApiTypes.Generation
