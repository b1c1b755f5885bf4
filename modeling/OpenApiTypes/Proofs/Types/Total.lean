/-
The generator of types never fails.

* `Types.Ready`: the file of types is there, no name in it is withdrawn, and the types declared so
  far have names;
* `Types.ensures_declareEvent`: every entry of a model adds the types that it gives;
* `Types.ensures_run`: the generator of types gives names to the types of all entries.
-/
import OpenApiTypes.Proofs.Generation.Steps
import OpenApiTypes.Proofs.Types.Declared
import OpenApiTypes.Proofs.Types.Frame

namespace OpenApiTypes.Types

open OpenApiTypes.Config (TypesOptions)
open OpenApiTypes.Generation (Ensures Failure SameOutside Session runs_addTo_iff
  runs_createFile_iff runs_ofNames_iff runs_request_iff)
open OpenApiTypes.Model
open OpenApiTypes.Output (Identifier Namespace Registry)
open OpenApiTypes.TypeScript (Stmt TypeExpr)

variable {α : Type} {types : List Declared} {σ σ' : Session} {allowed : Failure → Prop}
  {conversions : Conversions}

/-- The file of types is there, no name in it is withdrawn, and certain types have names. -/
structure Ready (types : List Declared) (σ : Session) : Prop where
  file : ∃ file, σ.files.get? fileId = some file
  unwithdrawn : σ.registry.Unwithdrawn fileId
  given : ∀ d ∈ types, ∃ name, σ.registry.status? d.pointer .type fileId = some (.active name)

namespace Ready

/-- Names are only ever added. -/
lemma grows (h : Ready types σ) {r : Registry} (hr : Grows σ.registry r) :
    Ready types { σ with registry := r } where
  file := h.file
  unwithdrawn := hr.unwithdrawn h.unwithdrawn
  given d hd := by
    obtain ⟨name, hname⟩ := h.given d hd
    exact ⟨name, hr.keeps hname⟩

lemma add (h : Ready types σ) {d : Declared} {name : String}
    (hd : σ.registry.status? d.pointer .type fileId = some (.active name)) :
    Ready (types ++ [d]) σ where
  file := h.file
  unwithdrawn := h.unwithdrawn
  given e he := by
    rcases List.mem_append.mp he with he | he
    · exact h.given e he
    · exact List.mem_singleton.mp he ▸ ⟨name, hd⟩

/-- What other files hold does not matter. -/
lemma sameOutside (h : Ready types σ) {file : String} (hfile : fileId ≠ file)
    (hsame : SameOutside file σ σ') : Ready types σ' := by
  obtain ⟨hfiles, hnames⟩ := hsame fileId hfile
  refine ⟨?_, fun p ns e he => h.unwithdrawn (by rwa [hnames] at he), fun d hd => ?_⟩
  · rw [hfiles]
    exact h.file
  · rw [hnames]
    exact h.given d hd

end Ready

/-! ### Steps -/

lemma ensures_ofNames {x : StateM Registry α} {result : Registry → α → Prop}
    (hx : Gives x result) :
    Ensures allowed (Ready types) (Generation.ofNames x) fun _ => Ready types :=
  .of_runs fun σ h => ⟨_, _, runs_ofNames_iff.mpr ⟨rfl, rfl⟩, h.grows (hx σ.registry).1⟩

/-- A request is answered by a name. -/
lemma ensures_request (pointer : String) (ns : Namespace) :
    Ensures allowed (Ready types) (Generation.request fileId pointer ns true) fun i σ =>
      Ready types σ ∧ ∃ name, i.name? = some name
        ∧ σ.registry.status? pointer ns fileId = some (.active name) := by
  refine .of_runs fun σ h => ⟨_, _, runs_request_iff.mpr ⟨rfl, rfl⟩,
    h.grows (grows_request σ.registry pointer ns), ?_⟩
  obtain ⟨name, created, hname⟩ := h.unwithdrawn.exists_name pointer ns
  have hactive : (σ.registry.request pointer ns fileId true).1.name? = some name := by
    rw [hname]
    rfl
  exact ⟨name, hactive, Registry.status?_request hactive⟩

lemma ensures_addTo (s : Stmt) : Ensures allowed (Ready types)
    (Generation.addTo generatorName fileId s) fun _ => Ready types := by
  refine .of_runs fun σ h => ?_
  obtain ⟨file, hfile⟩ := h.file
  exact ⟨(), _, runs_addTo_iff.mpr ⟨file, hfile, rfl⟩,
    ⟨_, Entries.get?_put_self _ _ _⟩, h.unwithdrawn, h.given⟩

/-! ### Entries -/

lemma ensures_declare (d : Declared) (type : TypeExpr) (comment : List String) :
    Ensures allowed (Ready types) (declare d.pointer type comment) fun _ =>
      Ready (types ++ [d]) := by
  refine (ensures_request d.pointer .type).bind fun i σ h => ?_
  obtain ⟨h, name, hname, hentry⟩ := h
  rw [hname]
  exact ensures_addTo _ (h.add hentry)

lemma ensures_declareSchema (options : TypesOptions) (name : String) (s : Schema) :
    Ensures allowed (Ready types) (declareSchema options conversions name s) fun _ =>
      Ready (types ++ [.schema name]) := by
  have hconstant : ∀ types pointer, Ensures allowed (Ready types) (constantName? options pointer s)
      fun _ => Ready types := by
    intro types pointer
    unfold constantName?
    split
    · exact (ensures_request pointer .value).bind fun _ => .pure fun _ h => h.1
    · exact .pure fun _ h => h
  refine (ensures_request (Declared.schema name).pointer .type).bind fun i σ h => ?_
  obtain ⟨h, typeName, hname, hentry⟩ := h
  rw [hname]
  refine ((hconstant (types ++ [.schema name]) _).bind fun constant => ?_) (h.add hentry)
  split
  · exact (ensures_addTo _).bind fun _ => ensures_addTo _
  · exact (ensures_ofNames (gives_typeOf conversions s)).bind fun _ => ensures_addTo _

lemma ensures_declareResponses (id : String) (rs : Responses) (byStatus any : OperationType) :
    Ensures allowed (Ready types) (declareResponses conversions id rs byStatus any) fun _ =>
      Ready (types ++ (responseTypes rs byStatus any).map (.operation id)) := by
  unfold declareResponses responseTypes
  split
  · exact .pure fun _ h => by simpa using h
  refine (ensures_ofNames (gives_statusType conversions rs)).bind fun _ =>
    (ensures_declare (.operation id byStatus) _ _).bind fun _ => ?_
  cases rs.schema? with
  | none => exact .pure fun _ h => by simpa using h
  | some s =>
    refine (ensures_ofNames (gives_typeOf conversions s)).bind fun type =>
      (ensures_declare (.operation id any) type []).weaken (fun _ h => h) fun _ _ h => ?_
    simpa using h

lemma ensures_declareOperation (op : Operation) :
    Ensures allowed (Ready types) (declareOperation conversions op) fun _ =>
      Ready (types ++ (operationTypes op).map (.operation op.id)) := by
  refine (ensures_ofNames (gives_dataType conversions op)).bind fun _ =>
    (ensures_declare (.operation op.id .data) _ _).bind fun _ =>
      (ensures_declareResponses _ _ _ _).bind fun _ =>
        (ensures_declareResponses _ _ _ _).weaken (fun _ h => h) fun _ _ h => ?_
  simpa [operationTypes] using h

lemma ensures_declareWebhook (name : String) (op : Operation) :
    Ensures allowed (Ready types) (declareWebhook conversions name op) fun _ =>
      Ready (types ++ webhookTypes name op) := by
  unfold declareWebhook webhookTypes
  cases op.body with
  | none => exact .pure fun _ h => by simpa using h
  | some b =>
    exact (ensures_ofNames (gives_typeOf conversions b.schema)).bind fun _ =>
      ensures_declare (.webhook name op.method) _ _

/-- Every entry of a model adds the types that it gives. -/
lemma ensures_declareEvent (options : TypesOptions) (e : Generation.Event) :
    Ensures allowed (Ready types) (declareEvent options conversions e) fun _ =>
      Ready (types ++ declaredTypes e) := by
  cases e with
  | schema name s => exact ensures_declareSchema options name s
  | operation op => exact ensures_declareOperation op
  | webhook name op => exact ensures_declareWebhook name op
  | server | parameter | requestBody =>
    exact .pure fun _ h => by simpa [declaredTypes] using h

/-! ### The whole file -/

/-- The generator of types never fails, and gives names to the types of all entries. -/
theorem ensures_run (setting : Generation.Setting) (options : TypesOptions) :
    Ensures allowed (fun σ => σ.registry.Unwithdrawn fileId) (run setting options) fun _ =>
      Ready ((typeEvents setting.model).flatMap declaredTypes) := by
  have hcreate : Ensures allowed (fun σ => σ.registry.Unwithdrawn fileId)
      (Generation.createFile setting fileId options.output options.convention
        options.exportFromIndex) fun _ => Ready [] :=
    .of_runs fun σ h => ⟨(), _, runs_createFile_iff.mpr rfl,
      ⟨_, Entries.get?_put_self _ _ _⟩, h.registerFile _ _, by simp⟩
  refine hcreate.bind fun _ => ?_
  refine Ensures.forM_induction (motive := fun done => Ready (done.flatMap declaredTypes))
    fun done e _ => ?_
  rw [List.flatMap_append, List.flatMap_singleton]
  exact ensures_declareEvent options e

end OpenApiTypes.Types
