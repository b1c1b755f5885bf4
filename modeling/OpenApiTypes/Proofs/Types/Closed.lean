/-
The file of types is closed.

* `Types.Progress`: the file of types while it is being generated: what has been declared, and that
  whatever it mentions has been given a name;
* `Types.progress_declareEvent`: an entry of a model preserves it, `Types.progress_forM`: so do
  several, one after the other;
* `Types.Progress.closed`: a file that declares every component, and nothing twice, is closed;
* `Types.progress_run`: the generator of types leaves such a file behind.
-/
import OpenApiTypes.Proofs.Generation.Steps
import OpenApiTypes.Proofs.Model.Agreement
import OpenApiTypes.Proofs.Types.Declared
import OpenApiTypes.Proofs.Types.Names

namespace OpenApiTypes.Types

open OpenApiTypes.Model
open OpenApiTypes.Config (TypesOptions)
open OpenApiTypes.Generation (Runs Session runs_addTo_iff runs_bind_iff runs_ofNames_iff
  runs_pure_iff runs_request_iff)
open OpenApiTypes.Output (Identifier Namespace Registry)
open OpenApiTypes.TypeScript (Closed Expr Mention Property Stmt TypeExpr aliasNames constNames
  builtinTypes listMentions mem_mentions_unionOf propertyMentions stmtsMentions)

variable {α : Type} {names types constants : List String} {r r' : Registry} {nodes : List Stmt}
  {σ σ' : Session}

/-! ### The file so far -/

/-- A type or constant has been given a name: it is accounted for as a type, or it is a constant
that was declared. -/
def Known (names constants : List String) (r : Registry) (m : Mention) : Prop :=
  Accounted names r m
    ∨ m.1 = .value ∧ ∃ p ∈ constants, r.status? p .value fileId = some (.active m.2)

lemma Known.mono {m : Mention} (h : Known names constants r m) (more : List String)
    (hr : r.Extends r') : Known names (constants ++ more) r' m := by
  refine h.imp (fun h => h.mono hr) fun ⟨hns, p, hp, he⟩ => ?_
  exact ⟨hns, p, List.mem_append_left _ hp, hr he⟩

/-- The references in one list were given the names in another one. -/
abbrev Named (r : Registry) (ns : Namespace) : List String → List String → Prop :=
  List.Forall₂ fun p name => r.status? p ns fileId = some (.active name)

lemma Named.mono {ns : Namespace} {ps ns' : List String} (h : Named r ns ps ns')
    (hr : r.Extends r') : Named r' ns ps ns' :=
  List.Forall₂.imp (fun _ _ he => hr he) h

/-- The statements declare the types and the constants of certain references, export all of them,
and mention known names only. -/
structure Declares (names : List String) (r : Registry) (types constants : List String)
    (nodes : List Stmt) : Prop where
  types_named : Named r .type types (aliasNames nodes)
  constants_named : Named r .value constants (constNames nodes)
  exported : ∀ s ∈ nodes, s.isExported = true
  mentions : ∀ m ∈ stmtsMentions nodes, Known names constants r m

namespace Declares

lemma nil (names : List String) (r : Registry) : Declares names r [] [] [] :=
  ⟨.nil, .nil, by simp, by simp [stmtsMentions]⟩

lemma mono (h : Declares names r types constants nodes) (hr : r.Extends r') :
    Declares names r' types constants nodes where
  types_named := Named.mono h.types_named hr
  constants_named := Named.mono h.constants_named hr
  exported := h.exported
  mentions m hm := by
    have := (h.mentions m hm).mono [] hr
    simpa using this

lemma append_mentions (h : Declares names r types constants nodes) (s : Stmt)
    (more : List String) (hs : ∀ m ∈ s.mentions, Known names (constants ++ more) r m) :
    ∀ m ∈ stmtsMentions (nodes ++ [s]), Known names (constants ++ more) r m := by
  intro m hm
  rw [TypeScript.stmtsMentions_eq, List.flatMap_append, List.mem_append] at hm
  rcases hm with hm | hm
  · rw [← TypeScript.stmtsMentions_eq] at hm
    exact (h.mentions m hm).mono more (Registry.Extends.refl r)
  · exact hs m (by simpa using hm)

lemma append_exported {s : Stmt} (h : Declares names r types constants nodes)
    (hs : s.isExported = true) : ∀ t ∈ nodes ++ [s], t.isExported = true := by
  intro t ht
  rcases List.mem_append.mp ht with ht | ht
  · exact h.exported t ht
  · exact List.mem_singleton.mp ht ▸ hs

lemma addAlias (h : Declares names r types constants nodes) {pointer name : String}
    {type : TypeExpr} (comment : List String)
    (hentry : r.status? pointer .type fileId = some (.active name))
    (htype : ∀ m ∈ type.mentions, Known names constants r m) :
    Declares names r (types ++ [pointer]) constants
      (nodes ++ [.typeAlias name true type comment]) where
  types_named := by
    rw [TypeScript.aliasNames_append]
    exact List.rel_append h.types_named (.cons hentry .nil)
  constants_named := by simpa using h.constants_named
  exported := h.append_exported rfl
  mentions := by
    have := h.append_mentions (.typeAlias name true type comment) []
      (by simpa [Stmt.mentions] using htype)
    simpa using this

lemma addConstant (h : Declares names r types constants nodes) {pointer name : String}
    {value : Expr} (comment : List String)
    (hentry : r.status? pointer .value fileId = some (.active name))
    (hvalue : value.mentions = []) :
    Declares names r types (constants ++ [pointer])
      (nodes ++ [.const name true none value comment]) where
  types_named := by simpa using h.types_named
  constants_named := by
    rw [TypeScript.constNames_append]
    exact List.rel_append h.constants_named (.cons hentry .nil)
  exported := h.append_exported rfl
  mentions := h.append_mentions (.const name true none value comment) [pointer]
    (by simp [Stmt.mentions, TypeScript.optionMentions, hvalue])

end Declares

/-- What the generator of types has done so far. -/
structure Progress (names types constants : List String) (σ : Session) : Prop where
  sound : Sound σ.registry
  declares : ∃ file, σ.files.get? fileId = some file
    ∧ Declares names σ.registry types constants file.nodes

/-! ### Steps -/

namespace Progress

/-- Giving names for the types of components. -/
lemma ofNames {x : StateM Registry α} {mentions : α → List Mention} {a : α}
    (h : Progress names types constants σ) (hx : Accounts names [] x mentions)
    (hrun : Runs (Generation.ofNames x) σ a σ') :
    Progress names types constants σ' ∧ ∀ m ∈ mentions a, Accounted names σ'.registry m := by
  obtain ⟨rfl, rfl⟩ := runs_ofNames_iff.mp hrun
  obtain ⟨hsound, hextends, hmentions⟩ := hx σ.registry h.sound (by simp)
  obtain ⟨file, hfile, hdeclares⟩ := h.declares
  exact ⟨⟨hsound, file, hfile, hdeclares.mono hextends⟩, hmentions⟩

/-- A request gives the name of the reference. -/
lemma request {pointer : String} {ns : Namespace} {i : Identifier}
    (h : Progress names types constants σ)
    (hrun : Runs (Generation.request fileId pointer ns true) σ i σ') :
    Progress names types constants σ' ∧ σ.registry.Extends σ'.registry
      ∧ ∃ name, i.name? = some name
        ∧ σ'.registry.status? pointer ns fileId = some (.active name) := by
  obtain ⟨rfl, rfl⟩ := runs_request_iff.mp hrun
  obtain ⟨file, hfile, hdeclares⟩ := h.declares
  obtain ⟨name, created, hname, hentry⟩ := request_active h.sound pointer ns
  have hextends := Registry.extends_request σ.registry pointer ns fileId
  exact ⟨⟨sound_request h.sound pointer ns, file, hfile, hdeclares.mono hextends⟩, hextends,
    name, by rw [hname]; rfl, hentry⟩

lemma addAlias {pointer name : String} {type : TypeExpr} {comment : List String} {u : Unit}
    (h : Progress names types constants σ)
    (hrun : Runs (Types.addAlias name type comment) σ u σ')
    (hentry : σ.registry.status? pointer .type fileId = some (.active name))
    (htype : ∀ m ∈ type.mentions, Known names constants σ.registry m) :
    Progress names (types ++ [pointer]) constants σ' := by
  obtain ⟨file, hfile, hdeclares⟩ := h.declares
  obtain ⟨file', hfile', rfl⟩ := runs_addTo_iff.mp hrun
  obtain rfl : file = file' := Option.some.inj (hfile.symm.trans hfile')
  exact ⟨h.sound, _, Entries.get?_put_self _ _ _, hdeclares.addAlias comment hentry htype⟩

lemma addConstant {pointer name : String} {value : Expr} {comment : List String} {u : Unit}
    (h : Progress names types constants σ)
    (hrun : Runs (Types.addConstant name value comment) σ u σ')
    (hentry : σ.registry.status? pointer .value fileId = some (.active name))
    (hvalue : value.mentions = []) :
    Progress names types (constants ++ [pointer]) σ'
      ∧ σ'.registry = σ.registry := by
  obtain ⟨file, hfile, hdeclares⟩ := h.declares
  obtain ⟨file', hfile', rfl⟩ := runs_addTo_iff.mp hrun
  obtain rfl : file = file' := Option.some.inj (hfile.symm.trans hfile')
  exact ⟨⟨h.sound, _, Entries.get?_put_self _ _ _, hdeclares.addConstant comment hentry hvalue⟩,
    rfl⟩

end Progress

/-! ### Components -/

lemma mentions_enumObject (s : Schema) : (enumObject s).mentions = [] := by
  have hliteral : ∀ v e, enumConstant? v = some e → e.2.mentions = [] := by
    intro v e h
    unfold enumConstant? at h
    split at h <;> simp only [Option.some.injEq, reduceCtorEq] at h <;> subst h <;> rfl
  have hmembers : ∀ (constants : List (String × Expr)) (taken : List String),
      (∀ e ∈ constants, e.2.mentions = []) →
      TypeScript.entriesMentions (enumMembers taken constants) = [] := by
    intro constants
    induction constants with
    | nil => exact fun _ _ => rfl
    | cons e rest ih =>
      intro taken h
      obtain ⟨label, value⟩ := e
      have hvalue : value.mentions = [] := h (label, value) List.mem_cons_self
      simp [enumMembers, TypeScript.entriesMentions, hvalue,
        ih _ fun e he => h e (List.mem_cons_of_mem _ he)]
  rw [enumObject, Expr.mentions, Expr.mentions]
  refine hmembers _ _ fun e he => ?_
  obtain ⟨item, -, hitem⟩ := List.mem_filterMap.mp he
  obtain ⟨v, -, hv⟩ := Option.bind_eq_some_iff.mp hitem
  exact hliteral v e hv

lemma mem_mentions_enumType {constant : String} {s : Schema} {m : Mention}
    (h : m ∈ (enumType constant s).mentions) : m = (.value, constant) := by
  obtain ⟨t, ht, hm⟩ := mem_mentions_unionOf h
  rcases List.mem_cons.mp ht with rfl | ht
  · simpa [TypeExpr.mentions] using hm
  · split at ht
    · obtain rfl := List.mem_singleton.mp ht
      simp [TypeExpr.mentions] at hm
    · simp at ht

lemma progress_declareSchema {options : TypesOptions} {conversions : Conversions} {name : String}
    {s : Schema} {u : Unit} (h : Progress names types constants σ)
    (hs : s.RefersOnlyTo names) (hrun : Runs (declareSchema options conversions name s) σ u σ') :
    Progress names (types ++ [Pointer.schema name])
      (constants ++ (declaredConstants options (.schema name s)).map Pointer.schema) σ' := by
  simp only [declareSchema, runs_bind_iff] at hrun
  obtain ⟨i, σ₁, hrequest, hrun⟩ := hrun
  obtain ⟨h₁, -, typeName, hname, hentry⟩ := h.request hrequest
  rw [hname] at hrun
  simp only [runs_bind_iff] at hrun
  obtain ⟨constant, σ₂, hconstant, hrun⟩ := hrun
  unfold constantName? at hconstant
  split at hconstant
  · rename_i henum
    simp only [runs_bind_iff, runs_pure_iff] at hconstant
    obtain ⟨j, σ₃, hrequest', rfl, rfl⟩ := hconstant
    obtain ⟨h₃, hextends, constant, hconstant, hentry'⟩ := h₁.request hrequest'
    rw [hconstant] at hrun
    simp only [runs_bind_iff] at hrun
    obtain ⟨_, σ₄, hadd, halias⟩ := hrun
    obtain ⟨h₄, hregistry⟩ := h₃.addConstant hadd hentry' (mentions_enumObject s)
    have hentry₄ : σ₄.registry.status? (Pointer.schema name) .type fileId
        = some (.active typeName) := by
      rw [hregistry]
      exact hextends hentry
    have := h₄.addAlias halias hentry₄ fun m hm => .inr ?_
    · simpa [declaredConstants, henum] using this
    · obtain rfl := mem_mentions_enumType hm
      exact ⟨rfl, Pointer.schema name, by simp, by rw [hregistry]; exact hentry'⟩
  · rename_i henum
    obtain ⟨rfl, rfl⟩ := runs_pure_iff.mp hconstant
    simp only [runs_bind_iff] at hrun
    obtain ⟨type, σ₂, htype, halias⟩ := hrun
    obtain ⟨rfl, rfl⟩ := runs_ofNames_iff.mp htype
    obtain ⟨-, hextends, -⟩ := accounts_typeOf conversions s hs σ₁.registry h₁.sound (by simp)
    obtain ⟨h₂, hmentions⟩ := h₁.ofNames (accounts_typeOf conversions s hs) htype
    have := h₂.addAlias halias (hextends hentry)
      fun m hm => .inl (hmentions m hm)
    simpa [declaredConstants, henum] using this

/-! ### Operations -/

lemma Accounts.mapM {β : Type} {f : α → StateM Registry β} {mentions : β → List Mention}
    {l : List α} (h : ∀ a ∈ l, Accounts names [] (f a) mentions) :
    Accounts names [] (l.mapM f) fun bs => bs.flatMap mentions := by
  induction l with
  | nil => exact .pure (by simp)
  | cons a l ih =>
    rw [List.mapM_cons]
    refine (h a List.mem_cons_self).bind fun b =>
      (ih fun a ha => h a (List.mem_cons_of_mem _ ha)).weaken.bind fun bs =>
        .pure fun m hm => .inl ?_
    simpa using hm

/-- What the type of a member mentions. -/
abbrev memberMentions (p : Property TypeExpr) : List Mention := p.type.mentions

lemma accounts_parameterMember (conversions : Conversions) (p : Model.Parameter)
    (hp : p.schema.RefersOnlyTo names) :
    Accounts names [] (parameterMember conversions p) memberMentions := by
  refine (accounts_typeOf conversions p.schema hp).bind fun t => .pure fun m hm => .inl ?_
  simpa using hm

lemma accounts_parametersMember (conversions : Conversions) (name : String)
    (ps : List Model.Parameter) (hps : ∀ p ∈ ps, p.schema.RefersOnlyTo names) :
    Accounts names [] (parametersMember conversions name ps) memberMentions := by
  unfold parametersMember
  split
  · exact .pure fun m hm => by simp [absentMember, memberMentions, TypeExpr.mentions] at hm
  · refine (Accounts.mapM fun p hp => accounts_parameterMember conversions p (hps p hp)).bind
      fun members => .pure fun m hm => .inl ?_
    rw [memberMentions, TypeExpr.mentions, TypeScript.propertyMentions_eq] at hm
    simpa [TypeScript.optionMentions] using hm

lemma accounts_bodyMember (conversions : Conversions) (body : Option Body)
    (h : ∀ b ∈ body, b.schema.RefersOnlyTo names) :
    Accounts names [] (bodyMember conversions body) memberMentions := by
  match body with
  | none => exact .pure fun m hm => by simp [absentMember, memberMentions, TypeExpr.mentions] at hm
  | some b =>
    refine (accounts_typeOf conversions b.schema (h b rfl)).bind fun t => .pure fun m hm => .inl ?_
    simpa using hm

/-- All schemas that an operation begins with refer to components only. -/
def RootsReferOnlyTo (names : List String) (op : Operation) : Prop :=
  ∀ s ∈ op.roots, s.RefersOnlyTo names

lemma RootsReferOnlyTo.body {op : Operation} (h : RootsReferOnlyTo names op) :
    ∀ b ∈ op.body, b.schema.RefersOnlyTo names :=
  fun b hb => h _ (by simp_all [Operation.roots])

lemma RootsReferOnlyTo.parameters {op : Operation} (h : RootsReferOnlyTo names op)
    (place : Place) : ∀ p ∈ (op.parameters.at_ place).values, p.schema.RefersOnlyTo names := by
  intro p hp
  have hplace : place ∈ Place.all := by cases place <;> simp [Place.all]
  refine h _ ?_
  simp only [Operation.roots, List.mem_append, List.mem_map]
  exact .inl (.inl ⟨p, List.mem_flatMap.mpr ⟨place, hplace, hp⟩, rfl⟩)

lemma accounts_dataType (conversions : Conversions) {op : Operation}
    (h : RootsReferOnlyTo names op) : Accounts names [] (dataType conversions op)
      TypeExpr.mentions := by
  refine (accounts_bodyMember conversions op.body h.body).bind fun body =>
    ((accounts_parametersMember conversions _ _ (h.parameters .header)).weaken).bind fun headers =>
    ((accounts_parametersMember conversions _ _ (h.parameters .path)).weaken).bind fun path =>
    ((accounts_parametersMember conversions _ _ (h.parameters .query)).weaken).bind fun query =>
    .pure fun m hm => .inl ?_
  rw [TypeExpr.mentions, TypeScript.propertyMentions_eq] at hm
  simpa [TypeScript.optionMentions, TypeExpr.mentions, or_assoc] using hm

lemma accounts_statusType (conversions : Conversions) {rs : Responses}
    (h : ∀ r ∈ rs.values, r.schema.RefersOnlyTo names) :
    Accounts names [] (statusType conversions rs) TypeExpr.mentions := by
  have hmember : ∀ p ∈ rs, Accounts names [] (responseMember conversions p.1 p.2)
      memberMentions := fun p hp => by
    refine (accounts_typeOf conversions p.2.schema (h p.2 (List.mem_map_of_mem hp))).bind
      fun t => .pure fun m hm => .inl ?_
    simpa using hm
  refine (Accounts.mapM hmember).bind fun members => .pure fun m hm => .inl ?_
  rw [TypeExpr.mentions, TypeScript.propertyMentions_eq] at hm
  simpa [TypeScript.optionMentions] using hm

lemma progress_declare {pointer : String} {type : TypeExpr} {comment : List String} {u : Unit}
    (h : Progress names types constants σ) (hrun : Runs (declare pointer type comment) σ u σ')
    (htype : ∀ m ∈ type.mentions, Accounted names σ.registry m) :
    Progress names (types ++ [pointer]) constants σ' := by
  simp only [declare, runs_bind_iff] at hrun
  obtain ⟨i, σ₁, hrequest, hrun⟩ := hrun
  obtain ⟨h₁, hextends, name, hname, hentry⟩ := h.request hrequest
  rw [hname] at hrun
  exact h₁.addAlias hrun hentry fun m hm => .inl ((htype m hm).mono hextends)

/-- Declaring a type that is made under the names given so far. -/
lemma progress_declare_ofNames {x : StateM Registry TypeExpr} {pointer : String}
    {comment : List String} {u : Unit} {type : TypeExpr} {σ₁ : Session}
    (h : Progress names types constants σ) (hx : Accounts names [] x TypeExpr.mentions)
    (hnames : Runs (Generation.ofNames x) σ type σ₁)
    (hrun : Runs (declare pointer type comment) σ₁ u σ') :
    Progress names (types ++ [pointer]) constants σ' := by
  obtain ⟨h₁, hmentions⟩ := h.ofNames hx hnames
  exact progress_declare h₁ hrun hmentions

lemma refersOnlyTo_schema? {rs : Responses} {s : Schema}
    (h : ∀ r ∈ rs.values, r.schema.RefersOnlyTo names) (hs : rs.schema? = some s) :
    s.RefersOnlyTo names := by
  have hmem : ∀ t ∈ distinct (rs.values.map Response.schema), t.RefersOnlyTo names := by
    intro t ht
    obtain ⟨r, hr, rfl⟩ := List.mem_map.mp (mem_of_mem_distinct ht)
    exact h r hr
  have hkept : ∀ kept : List Schema, (∀ t ∈ kept, t.RefersOnlyTo names) →
      (if kept.isEmpty then none else some (Schema.composed kept .or)) = some s →
      s.RefersOnlyTo names := by
    intro kept hkept hs
    split at hs
    · simp at hs
    · obtain rfl := Option.some.inj hs
      exact Schema.refersOnlyTo_composed hkept .or
  refine hkept _ (fun t ht => hmem t ?_) hs
  split at ht
  · exact List.mem_of_mem_filter ht
  · exact ht

lemma RootsReferOnlyTo.responses {op : Operation} (h : RootsReferOnlyTo names op) {rs : Responses}
    (hrs : ∀ p ∈ rs, p ∈ op.responses) : ∀ r ∈ rs.values, r.schema.RefersOnlyTo names := by
  intro r hr
  obtain ⟨p, hp, rfl⟩ := List.mem_map.mp hr
  refine h _ ?_
  simp only [Operation.roots, List.mem_append, List.mem_map]
  exact .inr ⟨p.2, List.mem_map_of_mem (hrs p hp), rfl⟩

lemma mem_responses_of_mem_successes {op : Operation} {p : String × Response}
    (h : p ∈ op.successes) : p ∈ op.responses := by
  unfold Operation.successes at h
  dsimp only at h
  split at h
  · exact List.mem_of_mem_filter h
  · exact List.mem_of_mem_filter h

lemma mem_responses_of_mem_errors {op : Operation} {p : String × Response}
    (h : p ∈ op.errors) : p ∈ op.responses := by
  unfold Operation.errors at h
  split at h
  · exact List.mem_of_mem_filter h
  · exact (List.mem_append.mp h).elim List.mem_of_mem_filter List.mem_of_mem_filter

lemma progress_declareResponses {conversions : Conversions} {id : String} {rs : Responses}
    {byStatus any : OperationType} {u : Unit} (h : Progress names types constants σ)
    (hrs : ∀ r ∈ rs.values, r.schema.RefersOnlyTo names)
    (hrun : Runs (declareResponses conversions id rs byStatus any) σ u σ') :
    Progress names (types ++ (responseTypes rs byStatus any).map (operationReference id)) constants
      σ' := by
  unfold declareResponses at hrun
  unfold responseTypes
  split
  · rename_i hempty
    rw [if_pos hempty] at hrun
    obtain ⟨-, rfl⟩ := runs_pure_iff.mp hrun
    simpa using h
  · rename_i hempty
    rw [if_neg hempty] at hrun
    simp only [runs_bind_iff] at hrun
    obtain ⟨type, σ₁, hnames, _, σ₂, hdeclare, hrun⟩ := hrun
    have h₂ := progress_declare_ofNames h (accounts_statusType conversions hrs) hnames hdeclare
    cases hs : rs.schema? with
    | none =>
      rw [hs] at hrun
      obtain ⟨-, rfl⟩ := runs_pure_iff.mp hrun
      simpa using h₂
    | some s =>
      rw [hs] at hrun
      simp only [runs_bind_iff] at hrun
      obtain ⟨type', σ₃, hnames', hdeclare'⟩ := hrun
      have := progress_declare_ofNames h₂
        (accounts_typeOf conversions s (refersOnlyTo_schema? hrs hs)) hnames' hdeclare'
      simpa using this

lemma progress_declareOperation {conversions : Conversions} {op : Operation} {u : Unit}
    (h : Progress names types constants σ) (hop : RootsReferOnlyTo names op)
    (hrun : Runs (declareOperation conversions op) σ u σ') :
    Progress names (types ++ (operationTypes op).map (operationReference op.id)) constants σ' := by
  simp only [declareOperation, runs_bind_iff] at hrun
  obtain ⟨data, σ₁, hnames, _, σ₂, hdeclare, _, σ₃, herrors, hsuccesses⟩ := hrun
  have h₂ := progress_declare_ofNames h (accounts_dataType conversions hop) hnames hdeclare
  have h₃ := progress_declareResponses h₂ (hop.responses fun p => mem_responses_of_mem_errors)
    herrors
  have h₄ := progress_declareResponses h₃ (hop.responses fun p => mem_responses_of_mem_successes)
    hsuccesses
  simpa [operationTypes] using h₄

lemma progress_declareWebhook {conversions : Conversions} {name : String} {op : Operation}
    {u : Unit} (h : Progress names types constants σ) (hop : RootsReferOnlyTo names op)
    (hrun : Runs (declareWebhook conversions name op) σ u σ') :
    Progress names (types ++ (webhookTypes name op).map Declared.pointer) constants σ' := by
  unfold declareWebhook at hrun
  cases hbody : op.body with
  | none =>
    rw [hbody] at hrun
    obtain ⟨-, rfl⟩ := runs_pure_iff.mp hrun
    simpa [webhookTypes, hbody] using h
  | some b =>
    rw [hbody] at hrun
    simp only [runs_bind_iff] at hrun
    obtain ⟨type, σ₁, hnames, hdeclare⟩ := hrun
    have hb : b.schema.RefersOnlyTo names := hop _ (by simp [Operation.roots, hbody])
    have := progress_declare_ofNames h (accounts_typeOf conversions _ hb) hnames hdeclare
    simpa [webhookTypes, hbody, Declared.pointer] using this

/-! ### Entries of a model -/

/-- The schemas of an entry refer to components only. -/
def EventRefersOnlyTo (names : List String) : Generation.Event → Prop
  | .schema _ s => s.RefersOnlyTo names
  | .operation op => RootsReferOnlyTo names op
  | .webhook _ op => RootsReferOnlyTo names op
  | _ => True

/-- The references of the types that an entry gives. -/
abbrev typePointers (e : Generation.Event) : List String := (declaredTypes e).map Declared.pointer

/-- The references of the constants that an entry gives. -/
abbrev constantPointers (options : TypesOptions) (e : Generation.Event) : List String :=
  (declaredConstants options e).map Pointer.schema

/-- Every component is an entry of the model, which declares its type. -/
lemma schema_mem_typePointers {api : Api} {n : String} (hn : n ∈ api.catalog.keys) :
    Pointer.schema n ∈ (typeEvents api).flatMap typePointers := by
  obtain ⟨component, hcomponent, rfl⟩ := List.mem_map.mp hn
  refine List.mem_flatMap.mpr ⟨.schema component.1 component.2, ?_, by
    simp [typePointers, declaredTypes, Declared.pointer]⟩
  rw [typeEvents_eq, List.mem_append, List.mem_append]
  exact .inl (.inl (List.mem_map.mpr ⟨component, hcomponent, rfl⟩))

/-- An entry of a model declares what it gives. -/
lemma progress_declareEvent {options : TypesOptions} {conversions : Conversions}
    {e : Generation.Event} {u : Unit} (h : Progress names types constants σ)
    (he : EventRefersOnlyTo names e) (hrun : Runs (declareEvent options conversions e) σ u σ') :
    Progress names (types ++ typePointers e) (constants ++ constantPointers options e) σ' := by
  cases e with
  | schema name s =>
    have := progress_declareSchema h he hrun
    simpa [typePointers, constantPointers, declaredTypes, Declared.pointer] using this
  | operation op =>
    have := progress_declareOperation h he hrun
    simpa [typePointers, constantPointers, declaredTypes, declaredConstants, Declared.pointer,
      Function.comp_def] using this
  | webhook name op =>
    have := progress_declareWebhook h he hrun
    simpa [typePointers, constantPointers, declaredTypes, declaredConstants] using this
  | server _ | parameter _ _ | requestBody _ _ =>
    obtain ⟨-, rfl⟩ := runs_pure_iff.mp hrun
    simpa [typePointers, constantPointers, declaredTypes, declaredConstants] using h

/-- So do several entries, one after the other. -/
lemma progress_forM {options : TypesOptions} {conversions : Conversions}
    {events : List Generation.Event} {u : Unit} (h : Progress names types constants σ)
    (hevents : ∀ e ∈ events, EventRefersOnlyTo names e)
    (hrun : Runs (events.forM (declareEvent options conversions)) σ u σ') :
    Progress names (types ++ events.flatMap typePointers)
      (constants ++ events.flatMap (constantPointers options)) σ' := by
  refine hrun.forM_induction (motive := fun done σ =>
    Progress names (types ++ done.flatMap typePointers)
      (constants ++ done.flatMap (constantPointers options)) σ) (by simpa using h) ?_
  intro done e σ₁ σ₂ hdone h₁ hstep
  have := progress_declareEvent h₁ (hevents e (hdone.subset (by simp))) hstep
  simpa using this

/-- A new file declares nothing. -/
lemma progress_createFile {setting : Generation.Setting} {output : String}
    {convention : NamingConvention} {exportFromIndex : Bool} {u : Unit} (names : List String)
    (hrun : Runs (Generation.createFile setting fileId output convention exportFromIndex) {} u
      σ) : Progress names [] [] σ := by
  obtain rfl := Generation.runs_createFile_iff.mp hrun
  exact ⟨sound_registerFile sound_nil _ _, _, Entries.get?_put_self _ _ _, Declares.nil names _⟩

/-- The generator of types declares what all entries of a model give. -/
theorem progress_run {setting : Generation.Setting} {options : TypesOptions} {u : Unit}
    (hevents : ∀ e ∈ typeEvents setting.model, EventRefersOnlyTo names e)
    (hrun : Runs (run setting options) {} u σ') :
    Progress names ((typeEvents setting.model).flatMap typePointers)
      ((typeEvents setting.model).flatMap (constantPointers options)) σ' := by
  obtain ⟨_, σ₁, hcreate, hrest⟩ := runs_bind_iff.mp hrun
  exact progress_forM (progress_createFile names hcreate) hevents hrest

/-! ### Closed files -/

lemma Named.mem {ns : Namespace} {ps ns' : List String} (h : Named r ns ps ns') {p name : String}
    (hp : p ∈ ps) (hentry : r.status? p ns fileId = some (.active name)) : name ∈ ns' := by
  induction h with
  | nil => simp at hp
  | cons hhead htail ih =>
    rcases List.mem_cons.mp hp with rfl | hp
    · obtain rfl : _ = name := by simpa [hhead] using hentry
      exact List.mem_cons_self
    · exact List.mem_cons_of_mem _ (ih hp)

lemma Named.exists_pointer {ns : Namespace} {ps ns' : List String} (h : Named r ns ps ns')
    {name : String} (hname : name ∈ ns') :
    ∃ p ∈ ps, r.status? p ns fileId = some (.active name) := by
  induction h with
  | nil => simp at hname
  | cons hhead htail ih =>
    rcases List.mem_cons.mp hname with rfl | hname
    · exact ⟨_, List.mem_cons_self, hhead⟩
    · obtain ⟨p, hp, hentry⟩ := ih hname
      exact ⟨p, List.mem_cons_of_mem _ hp, hentry⟩

/-- Distinct references have names that differ even in small letters. -/
lemma Named.nodup {ns : Namespace} {ps ns' : List String} (h : Named r ns ps ns')
    (hr : r.Distinct ns fileId) (hps : ps.Nodup) : (ns'.map Text.lowercase).Nodup := by
  induction h with
  | nil => exact List.nodup_nil
  | cons hhead htail ih =>
    obtain ⟨hfresh, hps⟩ := List.nodup_cons.mp hps
    refine List.nodup_cons.mpr ⟨fun hmem => ?_, ih hps⟩
    obtain ⟨name, hname, heq⟩ := List.mem_map.mp hmem
    obtain ⟨q, hq, hentry⟩ := Named.exists_pointer htail hname
    exact hfresh (hr.pointer_eq hhead hentry heq.symm ▸ hq)

/-- A file that declares every component, and nothing twice, is closed. -/
theorem Progress.closed (h : Progress names types constants σ) (htypes : types.Nodup)
    (hconstants : constants.Nodup) (hnames : ∀ n ∈ names, Pointer.schema n ∈ types)
    {file : Output.File} (hfile : σ.files.get? fileId = some file) : Closed file.nodes := by
  obtain ⟨file', hfile', hdeclares⟩ := h.declares
  obtain rfl : file' = file := Option.some.inj (hfile'.symm.trans hfile)
  have hexports : TypeScript.exports file'.nodes = file'.nodes :=
    List.filter_eq_self.mpr hdeclares.exported
  have halias := hdeclares.types_named.nodup h.sound.types htypes
  have hconst := hdeclares.constants_named.nodup h.sound.values hconstants
  refine ⟨fun name hname hbuiltin => ?_, fun name hname => ?_, halias, hconst⟩
  · rw [hexports]
    refine List.count_eq_one_of_mem (List.Nodup.of_map _ halias) ?_
    rcases hdeclares.mentions _ hname with ⟨-, hname | ⟨n, hn, hentry⟩⟩ | ⟨hns, -⟩
    · exact absurd hname hbuiltin
    · exact hdeclares.types_named.mem (hnames n hn) hentry
    · simp at hns
  · rw [hexports]
    refine List.count_eq_one_of_mem (List.Nodup.of_map _ hconst) ?_
    rcases hdeclares.mentions _ hname with ⟨hns, -⟩ | ⟨-, p, hp, hentry⟩
    · simp at hns
    · exact hdeclares.constants_named.mem hp hentry

end OpenApiTypes.Types
