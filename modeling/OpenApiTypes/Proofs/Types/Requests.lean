/-
The names that the generator of types asks for.

* `Types.Asks`: a step that asks for the names of certain references in the file of types, and does
  nothing else to a registry;
* `Types.asks_typeOf`: for the type of a schema, names of the components it refers to are asked for;
* `Types.keeps_asked_declareEvent`: for an entry of a model, also the names of what it gives;
* `Types.asked_run`: the generator of types asks for **names of what the file declares, and for
  nothing else**.
-/
import OpenApiTypes.Proofs.Output.Numbered
import OpenApiTypes.Proofs.Types.Closed
import OpenApiTypes.Proofs.Types.Frame

namespace OpenApiTypes.Types

open OpenApiTypes.Model
open OpenApiTypes.Config (TypesOptions)
open OpenApiTypes.Generation (Keeps Runs Session runs_addTo_iff runs_bind_iff runs_ofNames_iff)
open OpenApiTypes.Output (Namespace Registry)
open OpenApiTypes.Output.Registry (Asked)
open OpenApiTypes.TypeScript (Stmt TypeExpr)

variable {α β : Type} {wanted : Namespace → String → Prop} {names : List String}

/-! ### Steps -/

/-- A step asks for names in the file of types, each for one of certain references, and does nothing
else to a registry. -/
def Asks (wanted : Namespace → String → Prop) (x : StateM Registry α) : Prop :=
  ∀ r, Asked wanted fileId r (x.run r).2

namespace Asks

lemma pure (a : α) : Asks wanted (Pure.pure a : StateM Registry α) := fun r => .refl r

lemma bind {x : StateM Registry α} {f : α → StateM Registry β} (hx : Asks wanted x)
    (hf : ∀ a, Asks wanted (f a)) : Asks wanted (x >>= f) :=
  fun r => (hx r).trans (hf (x.run r).1 (x.run r).2)

lemma mapM {l : List α} {f : α → StateM Registry β} (h : ∀ a ∈ l, Asks wanted (f a)) :
    Asks wanted (l.mapM f) := by
  induction l with
  | nil => exact .pure []
  | cons a l ih =>
    rw [List.mapM_cons]
    exact (h a List.mem_cons_self).bind fun _ =>
      (ih fun b hb => h b (List.mem_cons_of_mem _ hb)).bind fun _ => .pure _

lemma request {pointer : String} {ns : Namespace} (h : wanted ns pointer) :
    Asks wanted (fun r => r.request pointer ns fileId true) :=
  fun r => (Asked.refl r).request h

end Asks

/-! ### Types of schemas -/

mutual

/-- For the type of a schema, names of the components it refers to are asked for. -/
theorem asks_typeOf (conversions : Conversions)
    (hnames : ∀ n ∈ names, wanted .type (Pointer.schema n)) (s : Schema)
    (hs : s.RefersOnlyTo names) :
    Asks wanted (typeOf conversions s) := by
  have hpointer := hs s .self
  match s with
  | { pointer, shape, properties, required, additionalProperties, items, operator?, facets,
      constValue, documentation } =>
    have hitems := asks_typesOf conversions hnames items fun i => hs.of_mem_items
    rw [typeOf.eq_def]
    dsimp only
    split
    · rename_i pointer
      obtain ⟨n, hn, rfl⟩ := hpointer pointer rfl
      intro r
      rw [run_referenceType]
      exact Asks.request (hnames n hn) r
    · exact .pure _
    split
    · exact (asks_elementType conversions hnames items fun i => hs.of_mem_items).bind
        fun _ => .pure _
    · exact hitems.bind fun _ => .pure _
    · exact hitems.bind fun _ => .pure _
    · exact (asks_propertyTypes conversions hnames required properties
        fun p => hs.of_mem_properties).bind fun _ =>
          (asks_additionalType conversions hnames additionalProperties
            fun a => hs.of_additional).bind fun _ => .pure _
    any_goals exact .pure _
    refine hitems.bind fun ts => ?_
    split
    · exact .pure _
    split <;> exact .pure _

theorem asks_elementType (conversions : Conversions)
    (hnames : ∀ n ∈ names, wanted .type (Pointer.schema n)) (items : List Schema)
    (h : ∀ i ∈ items, i.RefersOnlyTo names) :
    Asks wanted (elementType conversions items) := by
  match items with
  | [] => exact .pure _
  | s :: _ => exact asks_typeOf conversions hnames s (h s List.mem_cons_self)

theorem asks_typesOf (conversions : Conversions)
    (hnames : ∀ n ∈ names, wanted .type (Pointer.schema n)) (items : List Schema)
    (h : ∀ i ∈ items, i.RefersOnlyTo names) :
    Asks wanted (typesOf conversions items) := by
  match items with
  | [] => exact .pure _
  | s :: rest =>
    rw [typesOf]
    exact (asks_typeOf conversions hnames s (h s List.mem_cons_self)).bind fun _ =>
      (asks_typesOf conversions hnames rest
        fun i hi => h i (List.mem_cons_of_mem _ hi)).bind fun _ => .pure _

theorem asks_propertyTypes (conversions : Conversions)
    (hnames : ∀ n ∈ names, wanted .type (Pointer.schema n)) (required : List String)
    (properties : List (String × Schema)) (h : ∀ p ∈ properties, p.2.RefersOnlyTo names) :
    Asks wanted (propertyTypes conversions required properties) := by
  match properties with
  | [] => exact .pure _
  | (name, s) :: rest =>
    rw [propertyTypes]
    exact (asks_typeOf conversions hnames s (h _ List.mem_cons_self)).bind fun _ =>
      (asks_propertyTypes conversions hnames required rest
        fun p hp => h p (List.mem_cons_of_mem _ hp)).bind fun _ => .pure _

theorem asks_additionalType (conversions : Conversions)
    (hnames : ∀ n ∈ names, wanted .type (Pointer.schema n)) (additional : Option Schema)
    (h : ∀ a ∈ additional, a.RefersOnlyTo names) :
    Asks wanted (additionalType conversions additional) := by
  match additional with
  | none => exact .pure _
  | some s =>
    rw [additionalType]
    split
    · exact .pure _
    · exact (asks_typeOf conversions hnames s (h s rfl)).bind fun _ => .pure _

end

/-! ### Types of operations -/

section

variable (conversions : Conversions) (hnames : ∀ n ∈ names, wanted .type (Pointer.schema n))

include hnames

lemma asks_parametersMember (name : String) (ps : List Model.Parameter)
    (h : ∀ p ∈ ps, p.schema.RefersOnlyTo names) :
    Asks wanted (parametersMember conversions name ps) := by
  unfold parametersMember
  split
  · exact .pure _
  · exact (Asks.mapM fun p hp => (asks_typeOf conversions hnames p.schema (h p hp)).bind
      fun _ => .pure _).bind fun _ => .pure _

lemma asks_bodyMember (body : Option Body) (h : ∀ b ∈ body, b.schema.RefersOnlyTo names) :
    Asks wanted (bodyMember conversions body) := by
  match body with
  | none => exact .pure _
  | some b => exact (asks_typeOf conversions hnames b.schema (h b rfl)).bind fun _ => .pure _

lemma asks_dataType {op : Operation} (h : RootsReferOnlyTo names op) :
    Asks wanted (dataType conversions op) :=
  (asks_bodyMember conversions hnames op.body h.body).bind fun _ =>
    (asks_parametersMember conversions hnames _ _ (h.parameters .header)).bind fun _ =>
    (asks_parametersMember conversions hnames _ _ (h.parameters .path)).bind fun _ =>
    (asks_parametersMember conversions hnames _ _ (h.parameters .query)).bind fun _ => .pure _

lemma asks_statusType {rs : Responses} (h : ∀ r ∈ rs.values, r.schema.RefersOnlyTo names) :
    Asks wanted (statusType conversions rs) := by
  unfold statusType
  refine (Asks.mapM fun r hr => ?_).bind fun _ => .pure _
  exact (asks_typeOf conversions hnames r.2.schema (h r.2 (List.mem_map_of_mem hr))).bind
    fun _ => .pure _

end

/-! ### Declarations -/

/-- A step of the generator asks for such names and does nothing else to the registry. -/
abbrev KeepsAsked (wanted : Namespace → String → Prop) (r : Registry) (x : Generation α) : Prop :=
  Keeps (fun σ => Asked wanted fileId r σ.registry) x

section

variable {r : Registry} {conversions : Conversions}

lemma keeps_asked_ofNames {x : StateM Registry α} (hx : Asks wanted x) :
    KeepsAsked wanted r (Generation.ofNames x) := by
  intro σ a σ' hrun hσ
  obtain ⟨-, rfl⟩ := runs_ofNames_iff.mp hrun
  exact hσ.trans (hx σ.registry)

lemma keeps_asked_request {pointer : String} {ns : Namespace} (h : wanted ns pointer) :
    KeepsAsked wanted r (Generation.request fileId pointer ns true) :=
  keeps_asked_ofNames (.request h)

lemma keeps_asked_addTo (s : Stmt) :
    KeepsAsked wanted r (Generation.addTo generatorName fileId s) := by
  intro σ a σ' hrun hσ
  obtain ⟨file, -, rfl⟩ := runs_addTo_iff.mp hrun
  exact hσ

lemma keeps_asked_declare {pointer : String} (h : wanted .type pointer) (type : TypeExpr)
    (comment : List String) : KeepsAsked wanted r (declare pointer type comment) := by
  refine (keeps_asked_request h).bind fun i => ?_
  split
  · exact .pure _
  · exact keeps_asked_addTo _

section

variable (hnames : ∀ n ∈ names, wanted .type (Pointer.schema n))

include hnames

lemma keeps_asked_declareSchema {options : TypesOptions} {name : String} {s : Schema}
    (hs : s.RefersOnlyTo names) (htype : wanted .type (Pointer.schema name))
    (hconstant : (options.enums && s.hasShape .enum) = true →
      wanted .value (Pointer.schema name)) :
    KeepsAsked wanted r (declareSchema options conversions name s) := by
  have hname : KeepsAsked wanted r (constantName? options (Pointer.schema name) s) := by
    rw [constantName?]
    split
    · rename_i henum
      exact (keeps_asked_request (hconstant henum)).bind fun _ => .pure _
    · exact .pure _
  refine (keeps_asked_request htype).bind fun i => ?_
  split
  · exact .pure _
  refine hname.bind fun constant => ?_
  split
  · exact (keeps_asked_addTo _).bind fun _ => keeps_asked_addTo _
  · exact (keeps_asked_ofNames (asks_typeOf conversions hnames s hs)).bind
      fun _ => keeps_asked_addTo _

lemma keeps_asked_declareResponses {id : String} {rs : Responses} {byStatus any : OperationType}
    (hrs : ∀ r ∈ rs.values, r.schema.RefersOnlyTo names)
    (htypes : ∀ t ∈ responseTypes rs byStatus any, wanted .type (operationReference id t)) :
    KeepsAsked wanted r (declareResponses conversions id rs byStatus any) := by
  rw [declareResponses]
  rw [responseTypes] at htypes
  split
  · exact .pure _
  rename_i hempty
  rw [if_neg hempty] at htypes
  refine (keeps_asked_ofNames (asks_statusType conversions hnames hrs)).bind fun _ =>
    (keeps_asked_declare (htypes byStatus List.mem_cons_self) _ _).bind fun _ => ?_
  cases hs : rs.schema? with
  | none => exact .pure _
  | some s =>
    rw [hs] at htypes
    exact (keeps_asked_ofNames (asks_typeOf conversions hnames s
      (refersOnlyTo_schema? hrs hs))).bind fun _ => keeps_asked_declare (htypes any (by simp)) _ _

lemma keeps_asked_declareOperation {op : Operation} (hop : RootsReferOnlyTo names op)
    (htypes : ∀ t ∈ operationTypes op, wanted .type (operationReference op.id t)) :
    KeepsAsked wanted r (declareOperation conversions op) := by
  simp only [operationTypes, List.forall_mem_cons, List.forall_mem_append] at htypes
  obtain ⟨hdata, herrors, hsuccesses⟩ := htypes
  exact (keeps_asked_ofNames (asks_dataType conversions hnames hop)).bind fun _ =>
    (keeps_asked_declare hdata _ _).bind fun _ =>
    (keeps_asked_declareResponses hnames
      (hop.responses fun p => mem_responses_of_mem_errors) herrors).bind fun _ =>
    keeps_asked_declareResponses hnames
      (hop.responses fun p => mem_responses_of_mem_successes) hsuccesses

lemma keeps_asked_declareWebhook {name : String} {op : Operation}
    (hop : RootsReferOnlyTo names op)
    (htypes : ∀ d ∈ webhookTypes name op, wanted .type d.pointer) :
    KeepsAsked wanted r (declareWebhook conversions name op) := by
  rw [declareWebhook]
  cases hbody : op.body with
  | none => exact .pure _
  | some b =>
    have hwebhook : wanted .type (webhookReference name op.method) :=
      htypes (.webhook name op.method) (by simp [webhookTypes, hbody])
    exact (keeps_asked_ofNames (asks_typeOf conversions hnames b.schema
      (hop.body b hbody))).bind fun _ => keeps_asked_declare hwebhook _ _

/-- For an entry of a model, names of components and of what it gives are asked for. -/
lemma keeps_asked_declareEvent {options : TypesOptions} {e : Generation.Event}
    (he : EventRefersOnlyTo names e) (htypes : ∀ p ∈ typePointers e, wanted .type p)
    (hconstants : ∀ p ∈ constantPointers options e, wanted .value p) :
    KeepsAsked wanted r (declareEvent options conversions e) := by
  cases e with
  | schema name s =>
    have htype : wanted .type (Pointer.schema name) :=
      htypes _ (by simp [declaredTypes, Declared.pointer])
    exact keeps_asked_declareSchema hnames he htype fun henum =>
      hconstants _ (by simp [declaredConstants, henum])
  | operation op =>
    exact keeps_asked_declareOperation hnames he fun t ht =>
      htypes _ (List.mem_map_of_mem (List.mem_map_of_mem ht))
  | webhook name op =>
    exact keeps_asked_declareWebhook hnames he fun d hd => htypes _ (List.mem_map_of_mem hd)
  | server _ | parameter _ _ | requestBody _ _ => exact .pure _

end

end

/-! ### The whole file -/

/-- The references of what the entries of a model give, by namespace. -/
def givenPointers (options : TypesOptions) (events : List Generation.Event) :
    Namespace → List String
  | .type => events.flatMap typePointers
  | .value => events.flatMap (constantPointers options)

/-- The generator of types asks for names of what the file declares, and for nothing else. -/
theorem asked_run {setting : Generation.Setting} {options : TypesOptions} {σ : Session} {u : Unit}
    (hevents : ∀ e ∈ typeEvents setting.model, EventRefersOnlyTo setting.model.catalog.keys e)
    (hrun : Runs (run setting options) {} u σ) :
    Asked (fun ns pointer => pointer ∈ givenPointers options (typeEvents setting.model) ns) fileId
      (Registry.registerFile [] fileId options.convention) σ.registry := by
  obtain ⟨_, σ₁, hcreate, hrest⟩ := runs_bind_iff.mp hrun
  obtain rfl := Generation.runs_createFile_iff.mp hcreate
  set wanted := fun ns pointer => pointer ∈ givenPointers options (typeEvents setting.model) ns
  have hkept : KeepsAsked wanted (Registry.registerFile [] fileId options.convention)
      (Generation.forEach setting [.schema, .operation, .webhook]
        (declareEvent options (conversionsOf setting.config))) :=
    .forM fun e he => keeps_asked_declareEvent (fun n => schema_mem_typePointers) (hevents e he)
      (fun p hp => List.mem_flatMap.mpr ⟨e, he, hp⟩) fun p hp => List.mem_flatMap.mpr ⟨e, he, hp⟩
  exact hkept hrest (.refl _)

end OpenApiTypes.Types
