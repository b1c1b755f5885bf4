/-
What the types of a file stand for.

* `Types.Stands`: what is declared as the type of a component or of the response of an operation is
  the type of the schema;
* `Types.Traced`: whatever types the file declares so far, it declares under the names that were
  given for them, as what they stand for;
* `Types.traced_run`: the generator of types leaves such a file behind;
* `Types.exists_explained`: so do all generators, one after the other.
-/
import OpenApiTypes.Proofs.Transformers.Frame
import OpenApiTypes.Proofs.Types.Declared
import OpenApiTypes.Proofs.Types.Frame

namespace OpenApiTypes.Types

open OpenApiTypes.Model
open OpenApiTypes.Config (TypesOptions)
open OpenApiTypes.Generation (Runs Session runs_addTo_iff runs_bind_iff runs_ofNames_iff
  runs_pure_iff runs_request_iff)
open OpenApiTypes.Output (Identifier Namespace Registry)
open OpenApiTypes.TypeScript (Expr Stmt TypeExpr)

variable {α : Type} {api : Api} {conversions : Conversions} {r r' : Registry} {σ σ' : Session}
  {d : Declared} {t : TypeExpr}

/-- A declared type is what it stands for: that of a component is the type of the schema or that of
its constant, and that of a response is the type of the schema. -/
inductive Stands (api : Api) (conversions : Conversions) (r : Registry) :
    Declared → TypeExpr → Prop where
  | component {name : String} {s : Schema} {t : TypeExpr} (hmem : (name, s) ∈ api.catalog)
      (h : Typed conversions r s t) : Stands api conversions r (.schema name) t
  | enumeration {name constant : String} {s : Schema} (hmem : (name, s) ∈ api.catalog)
      (hshape : s.shape = some .enum) :
      Stands api conversions r (.schema name) (enumType constant s)
  | response {op : Operation} {s : Schema} {t : TypeExpr} (hop : op ∈ api.operations)
      (hs : op.successes.schema? = some s) (h : Typed conversions r s t) :
      Stands api conversions r (.operation op.id .response) t
  | operation {id : String} {type : OperationType} {t : TypeExpr} (htype : type ≠ .response) :
      Stands api conversions r (.operation id type) t
  | webhook {name : String} {method : HttpMethod} {t : TypeExpr} :
      Stands api conversions r (.webhook name method) t

lemma Stands.mono (h : Stands api conversions r d t) (hr : r.Extends r') :
    Stands api conversions r' d t := by
  cases h with
  | component hmem h => exact .component hmem (h.mono hr)
  | enumeration hmem hshape => exact .enumeration hmem hshape
  | response hop hs h => exact .response hop hs (h.mono hr)
  | operation htype => exact .operation htype
  | webhook => exact .webhook

/-- Whatever types statements declare, they declare under the names that were given for them, as
what they stand for. -/
def Explained (api : Api) (conversions : Conversions) (r : Registry) (statements : List Stmt) :
    Prop :=
  ∀ ⦃name exported t comment⦄, .typeAlias name exported t comment ∈ statements →
    ∃ d : Declared, r.status? d.pointer .type fileId = some (.active name)
      ∧ Stands api conversions r d t

lemma Explained.mono {statements : List Stmt} (h : Explained api conversions r statements)
    (hr : r.Extends r') : Explained api conversions r' statements := by
  intro name exported t comment hmem
  obtain ⟨d, hentry, hstands⟩ := h hmem
  exact ⟨d, hr hentry, hstands.mono hr⟩

/-- What the generator of types has declared so far is explained. -/
structure Traced (api : Api) (conversions : Conversions) (σ : Session) : Prop where
  distinct : σ.registry.Distinct .type fileId
  file : ∃ file, σ.files.get? fileId = some file
    ∧ Explained api conversions σ.registry file.nodes

namespace Traced

/-- Giving names for the types of schemas. -/
lemma ofNames {x : StateM Registry α} {result : Registry → α → Prop} {a : α}
    (h : Traced api conversions σ) (hx : Gives x result)
    (hrun : Runs (Generation.ofNames x) σ a σ') :
    Traced api conversions σ' ∧ σ.registry.Extends σ'.registry ∧ result σ'.registry a := by
  obtain ⟨rfl, rfl⟩ := runs_ofNames_iff.mp hrun
  obtain ⟨hgrows, hresult⟩ := hx σ.registry
  obtain ⟨file, hfile, hexplained⟩ := h.file
  exact ⟨⟨hgrows.distinct h.distinct, file, hfile, hexplained.mono hgrows.keeps⟩, hgrows.keeps,
    hresult _ (.refl _)⟩

/-- A request that is answered by a name gives it to the reference. -/
lemma request {pointer : String} {ns : Namespace} {i : Identifier}
    (h : Traced api conversions σ)
    (hrun : Runs (Generation.request fileId pointer ns true) σ i σ') :
    Traced api conversions σ' ∧ σ.registry.Extends σ'.registry
      ∧ ∀ name, i.name? = some name →
        σ'.registry.status? pointer ns fileId = some (.active name) := by
  obtain ⟨rfl, rfl⟩ := runs_request_iff.mp hrun
  have hgrows := grows_request σ.registry pointer ns
  obtain ⟨file, hfile, hexplained⟩ := h.file
  exact ⟨⟨hgrows.distinct h.distinct, file, hfile, hexplained.mono hgrows.keeps⟩, hgrows.keeps,
    fun name => Registry.status?_request⟩

lemma addAlias {name : String} {comment : List String} {u : Unit}
    (h : Traced api conversions σ) (hrun : Runs (Types.addAlias name t comment) σ u σ')
    (hentry : σ.registry.status? d.pointer .type fileId = some (.active name))
    (hstands : Stands api conversions σ.registry d t) : Traced api conversions σ' := by
  obtain ⟨file, hfile, hexplained⟩ := h.file
  obtain ⟨file', hfile', rfl⟩ := runs_addTo_iff.mp hrun
  obtain rfl : file = file' := Option.some.inj (hfile.symm.trans hfile')
  refine ⟨h.distinct, _, Entries.get?_put_self _ _ _, ?_⟩
  intro name' exported t' comment' hmem
  rcases List.mem_append.mp hmem with hmem | hmem
  · exact hexplained hmem
  · obtain ⟨rfl, rfl, rfl, rfl⟩ : name' = name ∧ exported = true ∧ t' = t ∧ comment' = comment := by
      simpa using hmem
    exact ⟨d, hentry, hstands⟩

/-- The type of a component is that of its schema. -/
lemma component {name typeName : String} {s : Schema} {comment : List String} {u : Unit}
    (h : Traced api conversions σ) (hmem : (name, s) ∈ api.catalog)
    (hentry : σ.registry.status? (Pointer.schema name) .type fileId = some (.active typeName))
    (hrun : Runs (do Types.addAlias typeName (← Generation.ofNames (typeOf conversions s)) comment)
      σ u σ') : Traced api conversions σ' := by
  obtain ⟨t, σ₁, htype, halias⟩ := runs_bind_iff.mp hrun
  obtain ⟨h₁, hextends, htyped⟩ := h.ofNames (gives_typeOf conversions s) htype
  exact h₁.addAlias (d := .schema name) halias (hextends hentry) (.component hmem htyped)

lemma addConstant {name : String} {value : Expr} {comment : List String} {u : Unit}
    (h : Traced api conversions σ) (hrun : Runs (Types.addConstant name value comment) σ u σ') :
    Traced api conversions σ' ∧ σ'.registry = σ.registry := by
  obtain ⟨file, hfile, hexplained⟩ := h.file
  obtain ⟨file', hfile', rfl⟩ := runs_addTo_iff.mp hrun
  obtain rfl : file = file' := Option.some.inj (hfile.symm.trans hfile')
  refine ⟨⟨h.distinct, _, Entries.get?_put_self _ _ _, ?_⟩, rfl⟩
  intro name' exported t' comment' hmem
  rcases List.mem_append.mp hmem with hmem | hmem
  · exact hexplained hmem
  · simp at hmem

end Traced

/-! ### Entries of a model -/

lemma traced_declareSchema {options : TypesOptions} {name : String} {s : Schema} {u : Unit}
    (h : Traced api conversions σ) (hmem : (name, s) ∈ api.catalog)
    (hrun : Runs (declareSchema options conversions name s) σ u σ') :
    Traced api conversions σ' := by
  simp only [declareSchema, runs_bind_iff] at hrun
  obtain ⟨i, σ₁, hrequest, hrun⟩ := hrun
  obtain ⟨h₁, -, hentry⟩ := h.request hrequest
  cases hname : i.name? with
  | none =>
    rw [hname] at hrun
    obtain ⟨-, rfl⟩ := runs_pure_iff.mp hrun
    exact h₁
  | some typeName =>
    rw [hname] at hrun
    simp only [runs_bind_iff] at hrun
    obtain ⟨constant, σ₂, hconstant, hrun⟩ := hrun
    unfold constantName? at hconstant
    split at hconstant
    · rename_i henum
      have hshape : s.shape = some .enum := by
        simp only [Schema.hasShape, Bool.and_eq_true, beq_iff_eq] at henum
        exact henum.2
      simp only [runs_bind_iff, runs_pure_iff] at hconstant
      obtain ⟨j, σ₃, hrequest', rfl, rfl⟩ := hconstant
      obtain ⟨h₃, hextends, -⟩ := h₁.request hrequest'
      cases hconstant : j.name? with
      | none =>
        rw [hconstant] at hrun
        exact h₃.component hmem (hextends (hentry typeName hname)) hrun
      | some constant =>
        rw [hconstant] at hrun
        simp only [runs_bind_iff] at hrun
        obtain ⟨_, σ₄, hadd, halias⟩ := hrun
        obtain ⟨h₄, hregistry⟩ := h₃.addConstant hadd
        refine h₄.addAlias halias ?_ (.enumeration hmem hshape)
        rw [hregistry]
        exact hextends (hentry typeName hname)
    · obtain ⟨rfl, rfl⟩ := runs_pure_iff.mp hconstant
      exact h₁.component hmem (hentry typeName hname) hrun

lemma traced_declare {pointer : String} {comment : List String} {u : Unit}
    (h : Traced api conversions σ) (hpointer : d.pointer = pointer)
    (hrun : Runs (declare pointer t comment) σ u σ')
    (hstands : Stands api conversions σ.registry d t) : Traced api conversions σ' := by
  subst hpointer
  simp only [declare, runs_bind_iff] at hrun
  obtain ⟨i, σ₁, hrequest, hrun⟩ := hrun
  obtain ⟨h₁, hextends, hentry⟩ := h.request hrequest
  cases hname : i.name? with
  | none =>
    rw [hname] at hrun
    obtain ⟨-, rfl⟩ := runs_pure_iff.mp hrun
    exact h₁
  | some name =>
    rw [hname] at hrun
    exact h₁.addAlias hrun (hentry name hname) (hstands.mono hextends)

lemma traced_declareResponses {id : String} {rs : Responses} {byStatus any : OperationType}
    {u : Unit} (h : Traced api conversions σ) (hbyStatus : byStatus ≠ .response)
    (hstands : ∀ r s t, rs.schema? = some s → Typed conversions r s t →
      Stands api conversions r (.operation id any) t)
    (hrun : Runs (declareResponses conversions id rs byStatus any) σ u σ') :
    Traced api conversions σ' := by
  unfold declareResponses at hrun
  split at hrun
  · obtain ⟨-, rfl⟩ := runs_pure_iff.mp hrun
    exact h
  · simp only [runs_bind_iff] at hrun
    obtain ⟨t, σ₁, htype, _, σ₂, hdeclare, hrun⟩ := hrun
    obtain ⟨h₁, -⟩ := h.ofNames (gives_statusType conversions rs) htype
    have h₂ := traced_declare (d := .operation id byStatus) h₁ rfl hdeclare (.operation hbyStatus)
    cases hs : rs.schema? with
    | none =>
      rw [hs] at hrun
      obtain ⟨-, rfl⟩ := runs_pure_iff.mp hrun
      exact h₂
    | some s =>
      rw [hs] at hrun
      simp only [runs_bind_iff] at hrun
      obtain ⟨t', σ₃, htype', hdeclare'⟩ := hrun
      obtain ⟨h₃, -, htyped⟩ := h₂.ofNames (gives_typeOf conversions s) htype'
      exact traced_declare (d := .operation id any) h₃ rfl hdeclare' (hstands _ s t' hs htyped)

lemma traced_declareOperation {op : Operation} {u : Unit} (h : Traced api conversions σ)
    (hop : op ∈ api.operations) (hrun : Runs (declareOperation conversions op) σ u σ') :
    Traced api conversions σ' := by
  simp only [declareOperation, runs_bind_iff] at hrun
  obtain ⟨t, σ₁, htype, _, σ₂, hdeclare, _, σ₃, herrors, hsuccesses⟩ := hrun
  obtain ⟨h₁, -⟩ := h.ofNames (gives_dataType conversions op) htype
  have h₂ := traced_declare (d := .operation op.id .data) h₁ rfl hdeclare (.operation (by decide))
  have h₃ := traced_declareResponses h₂ (by decide) (fun _ _ _ _ _ => .operation (by decide))
    herrors
  exact traced_declareResponses h₃ (by decide) (fun _ _ _ hs htyped => .response hop hs htyped)
    hsuccesses

lemma traced_declareWebhook {name : String} {op : Operation} {u : Unit}
    (h : Traced api conversions σ) (hrun : Runs (declareWebhook conversions name op) σ u σ') :
    Traced api conversions σ' := by
  unfold declareWebhook at hrun
  split at hrun
  · obtain ⟨-, rfl⟩ := runs_pure_iff.mp hrun
    exact h
  · obtain ⟨t, σ₁, htype, hdeclare⟩ := runs_bind_iff.mp hrun
    obtain ⟨h₁, -⟩ := h.ofNames (gives_typeOf conversions _) htype
    exact traced_declare (d := .webhook name op.method) h₁ rfl hdeclare .webhook

lemma traced_declareEvent {options : TypesOptions} {e : Generation.Event} {u : Unit}
    (h : Traced api conversions σ) (he : e ∈ typeEvents api)
    (hrun : Runs (declareEvent options conversions e) σ u σ') : Traced api conversions σ' := by
  rw [typeEvents_eq] at he
  cases e with
  | schema name s =>
    refine traced_declareSchema h ?_ hrun
    simpa using he
  | operation op =>
    refine traced_declareOperation h ?_ hrun
    simpa using he
  | webhook name op => exact traced_declareWebhook h hrun
  | server _ | parameter _ _ | requestBody _ _ =>
    obtain ⟨-, rfl⟩ := runs_pure_iff.mp hrun
    exact h

/-- The generator of types leaves behind a file of which every type is explained. -/
theorem traced_run {setting : Generation.Setting} {options : TypesOptions} {u : Unit}
    (hrun : Runs (run setting options) {} u σ') :
    Traced setting.model (conversionsOf setting.config) σ' := by
  simp only [run, runs_bind_iff, Generation.runs_createFile_iff] at hrun
  obtain ⟨_, σ₁, rfl, hrun⟩ := hrun
  refine hrun.forM_induction (motive := fun _ σ => Traced setting.model _ σ) ?_ ?_
  · refine ⟨(Registry.distinct_nil _ _).registerFile _ _, _, Entries.get?_put_self _ _ _, ?_⟩
    intro name exported t comment hmem
    simp [Output.File.create] at hmem
  · intro done e σ₁ σ₂ hdone h hstep
    exact traced_declareEvent h (hdone.subset (by simp)) hstep

/-- Every type of a finished file is explained by the names that the session gives to types. -/
theorem exists_explained {config : Config} {p : Generation.Pipeline} {file : Output.File}
    (hp : Generation.Pipeline.ofConfig config = .ok p) (hσ : p.session ⟨api, config⟩ = .ok σ)
    (hfile : σ.files.get? fileId = some file) : ∃ r : Registry, r.Distinct .type fileId
      ∧ Explained api (conversionsOf config) r file.nodes
      ∧ ∀ pointer ns, σ.registry.status? pointer ns fileId = r.status? pointer ns fileId := by
  obtain ⟨o, ho⟩ := Generation.exists_types_mem hp hσ hfile
  obtain ⟨σ₁, hrun, hsame, hnames⟩ := Transformers.types_run_of_mem hp hσ ho
  obtain ⟨hdistinct, file₁, hfile₁, hexplained⟩ := traced_run hrun
  obtain rfl := Option.some.inj (hfile₁.symm.trans (hsame.symm.trans hfile))
  exact ⟨_, hdistinct, hexplained, hnames⟩

end OpenApiTypes.Types
