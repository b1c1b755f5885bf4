/-
What the steps of the generator of types keep, and what they leave alone.

* `Types.gives_dataType`, `Types.gives_statusType`: the types of operations are given in steps that
  only ever add names of types;
* `Types.Kept`: the steps that the generator is made of keep what holds of a session;
  `Types.Kept.declareEvent`: so do those that are made of them;
* `Types.uniform_run`: the names in the file of types are made under the convention of the options;
* `Types.creates_run`: the generator of types creates its file, changes no other, and creates no
  name outside it.
-/
import OpenApiTypes.Proofs.Generation.Frame
import OpenApiTypes.Proofs.Types.Typed

namespace OpenApiTypes.Types

open OpenApiTypes.Generation (Confined Creates Keeps NamesIn Runs Session runs_bind_iff)
open OpenApiTypes.Model
open OpenApiTypes.Output (Registry)
open OpenApiTypes.TypeScript (TypeExpr)
open OpenApiTypes.Config (TypesOptions)

/-! ### Types of operations -/

variable {α : Type} (conversions : Conversions)

/-- A step that gives names of types gives no other ones. -/
lemma Gives.namesIn {x : StateM Registry α} {result : Registry → α → Prop} (h : Gives x result) :
    NamesIn fileId x :=
  fun r pointer ns id hid => (h r).1.elsewhere pointer ns id hid

lemma gives_parametersMember (name : String) (ps : List Model.Parameter) :
    Gives (parametersMember conversions name ps) fun _ _ => True := by
  unfold parametersMember
  split
  · exact .pure fun _ => trivial
  · have hmembers : Gives (ps.mapM (parameterMember conversions)) fun _ _ => True :=
      .mapM fun p => (gives_typeOf conversions p.schema).bind fun _ => .pure fun _ _ => trivial
    exact hmembers.bind fun _ => .pure fun _ _ => trivial

lemma gives_dataType (op : Operation) : Gives (dataType conversions op) fun _ _ => True := by
  have hbody : Gives (bodyMember conversions op.body) fun _ _ => True := by
    unfold bodyMember
    split
    · exact .pure fun _ => trivial
    · exact (gives_typeOf conversions _).bind fun _ => .pure fun _ _ => trivial
  exact hbody.bind fun _ => (gives_parametersMember conversions _ _).bind fun _ =>
    (gives_parametersMember conversions _ _).bind fun _ =>
      (gives_parametersMember conversions _ _).bind fun _ => .pure fun _ _ _ _ _ => trivial

lemma gives_statusType (rs : Responses) : Gives (statusType conversions rs) fun _ _ => True := by
  unfold statusType
  refine Gives.bind (Gives.mapM fun r => ?_) fun _ => .pure fun _ _ => trivial
  exact (gives_typeOf conversions r.2.schema).bind fun _ => .pure fun _ _ => trivial

/-! ### Declarations -/

lemma gives_request (pointer : String) (ns : Output.Namespace) :
    Gives (fun r => r.request pointer ns fileId true) fun _ _ => True :=
  fun r => ⟨grows_request r pointer ns, fun _ _ => trivial⟩

/-- The steps that the generator is made of keep what holds of a session. -/
structure Kept (P : Session → Prop) : Prop where
  names : ∀ {α : Type} {x : StateM Registry α} {result}, Gives x result →
    Keeps P (Generation.ofNames x)
  addTo : ∀ s, Keeps P (Generation.addTo generatorName fileId s)

namespace Kept

variable {conversions} {P : Session → Prop} (h : Kept P)

include h

lemma request (pointer : String) (ns : Output.Namespace) :
    Keeps P (Generation.request fileId pointer ns true) :=
  h.names (gives_request pointer ns)

lemma declare (pointer : String) (type : TypeExpr) (comment : List String) :
    Keeps P (declare pointer type comment) := by
  refine (h.request pointer .type).bind fun i => ?_
  split
  · exact .pure _
  · exact h.addTo _

lemma declareResponses (id : String) (rs : Responses) (byStatus any : OperationType) :
    Keeps P (declareResponses conversions id rs byStatus any) := by
  rw [Types.declareResponses]
  split
  · exact .pure _
  refine (h.names (gives_statusType conversions rs)).bind fun _ =>
    (h.declare _ _ _).bind fun _ => ?_
  split
  · exact .pure _
  · exact (h.names (gives_typeOf conversions _)).bind fun _ => h.declare _ _ _

lemma declareSchema (options : TypesOptions) (name : String) (s : Schema) :
    Keeps P (declareSchema options conversions name s) := by
  have hconstant : ∀ pointer, Keeps P (constantName? options pointer s) := fun pointer => by
    rw [constantName?]
    split
    · exact (h.request _ _).bind fun _ => .pure _
    · exact .pure _
  refine (h.request _ _).bind fun i => ?_
  split
  · exact .pure _
  refine (hconstant _).bind fun constant => ?_
  split
  · exact (h.addTo _).bind fun _ => h.addTo _
  · exact (h.names (gives_typeOf conversions s)).bind fun _ => h.addTo _

/-- So do the declarations for every entry of a model. -/
lemma declareEvent (options : TypesOptions) (e : Generation.Event) :
    Keeps P (declareEvent options conversions e) := by
  rw [Types.declareEvent.eq_def]
  split
  · exact h.declareSchema options _ _
  · exact (h.names (gives_dataType conversions _)).bind fun _ => (h.declare _ _ _).bind fun _ =>
      (h.declareResponses _ _ _ _).bind fun _ => h.declareResponses _ _ _ _
  · rw [declareWebhook]
    split
    · exact .pure _
    · exact (h.names (gives_typeOf conversions _)).bind fun _ => h.declare _ _ _
  · exact .pure _

end Kept

/-! ### The whole file -/

lemma kept_confined (σ₀ : Session) : Kept fun σ =>
    Generation.paths σ = Generation.paths σ₀ ∧ Generation.SameOutside fileId σ₀ σ where
  names := fun hx => (Confined.ofNames hx.namesIn).keeps σ₀
  addTo := fun _ => (Confined.addTo _ _).keeps σ₀

lemma kept_uniform (convention : NamingConvention) :
    Kept fun σ => σ.registry.Uniform fileId convention where
  names := by
    intro α x result hx σ a σ' hrun hσ
    obtain ⟨-, rfl⟩ := Generation.runs_ofNames_iff.mp hrun
    exact (hx σ.registry).1.uniform hσ
  addTo := by
    intro s σ a σ' hrun hσ
    obtain ⟨file, -, rfl⟩ := Generation.runs_addTo_iff.mp hrun
    exact hσ

/-- The generator of types gives all names in its file under the convention of its options. -/
theorem uniform_run {setting : Generation.Setting} {options : TypesOptions} {σ σ' : Session}
    {u : Unit} (h : Runs (run setting options) σ u σ')
    (hnames : ∀ pointer ns, σ.registry.status? pointer ns fileId = none) :
    σ'.registry.Uniform fileId options.convention := by
  obtain ⟨_, σ₁, hcreate, hrest⟩ := runs_bind_iff.mp h
  obtain rfl := Generation.runs_createFile_iff.mp hcreate
  have hkept : Keeps (fun σ => σ.registry.Uniform fileId options.convention)
      (Generation.forEach setting [.schema, .operation, .webhook]
        (declareEvent options (conversionsOf setting.config))) :=
    .forM fun e _ => (kept_uniform options.convention).declareEvent options e
  exact hkept hrest (Registry.uniform_registerFile hnames _)

/-- The generator of types creates its file, changes no other, and creates no name outside it. -/
theorem creates_run (setting : Generation.Setting) (options : TypesOptions) :
    Creates fileId (Output.fileName (Output.withExtension options.output))
      (run setting options) :=
  (Creates.createFile _ _ _ _).bind fun _ => .of_keeps fun σ₀ => .forM fun e _ =>
    (kept_confined σ₀).declareEvent options e

end OpenApiTypes.Types
