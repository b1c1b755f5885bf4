/-
The types of responses, one by one and together.

* `Model.Operation.mem_successes_iff`, `Model.Operation.mem_errors_iff`: which responses of an
  operation are successes, and which are errors;
* `Model.Responses.LeavesOut`: a void schema does not count beside different ones;
* `Types.DeclaresGroup`: the statements for a group of responses. The types by status come first,
  then the union of those that count, if any does;
* `Types.declaresGroup_declareResponses`: these are what the generator of types adds for the group;
* `Types.declaresGroups_of_session`: the file of types has them for the errors and for the successes
  of every operation;
* `Types.exists_unlisted`: of two schemas that differ in the order of their properties only, the
  second one does not count.
-/
import OpenApiTypes.Proofs.Model.Agreement
import OpenApiTypes.Proofs.Transformers.Frame
import OpenApiTypes.Proofs.Types.Declared
import OpenApiTypes.Proofs.Types.Frame
import OpenApiTypes.Proofs.Types.Index

namespace OpenApiTypes

namespace Model

/-! ### Successes and errors -/

/-- A status begins with a character. -/
def BeginsWith (c : Char) (status : String) : Prop := status.toList.head? = some c

lemma ofStatus_eq_success_iff (status : String) :
    StatusClass.ofStatus status = .success ↔ BeginsWith '2' status := by
  unfold StatusClass.ofStatus BeginsWith
  split_ifs with h
  · obtain rfl := beq_iff_eq.mp h
    decide
  · split <;> simp_all [List.head?_eq_some_iff]

lemma ofStatus_eq_error_iff (status : String) :
    StatusClass.ofStatus status = .error ↔ BeginsWith '4' status ∨ BeginsWith '5' status := by
  unfold StatusClass.ofStatus BeginsWith
  split_ifs with h
  · obtain rfl := beq_iff_eq.mp h
    decide
  · split <;> simp_all [List.head?_eq_some_iff]

lemma ofStatus_eq_default_iff (status : String) :
    StatusClass.ofStatus status = .default ↔ status = "default" := by
  unfold StatusClass.ofStatus
  split_ifs with h
  · simpa using h
  · refine iff_of_false ?_ (by simpa using h)
    split <;> simp

namespace Operation

variable {op : Operation} {x : String × Response} {c : StatusClass}

lemma mem_ofClass : x ∈ op.ofClass c ↔ x ∈ op.responses ∧ StatusClass.ofStatus x.1 = c := by
  simp [ofClass]

/-- Some response has a status of a class. -/
lemma ofClass_ne_nil_iff (op : Operation) (c : StatusClass) :
    op.ofClass c ≠ [] ↔ ∃ y ∈ op.responses, StatusClass.ofStatus y.1 = c := by
  simp only [← mem_ofClass]
  exact ⟨List.exists_mem_of_ne_nil _, fun ⟨_, hy⟩ => List.ne_nil_of_mem hy⟩

/-- The successes are the responses that say so, or `default` if none does. -/
lemma mem_successes_iff : x ∈ op.successes ↔ x ∈ op.responses
    ∧ (BeginsWith '2' x.1 ∨ x.1 = "default" ∧ ¬ ∃ y ∈ op.responses, BeginsWith '2' y.1) := by
  have hexplicit := op.ofClass_ne_nil_iff .success
  simp only [ofStatus_eq_success_iff] at hexplicit
  rw [successes, ← hexplicit, ← ofStatus_eq_success_iff, ← ofStatus_eq_default_iff]
  by_cases hnil : op.ofClass .success = []
  · have hnot : x ∈ op.responses → StatusClass.ofStatus x.1 ≠ .success := fun hx hclass =>
      List.not_mem_nil (hnil ▸ mem_ofClass.mpr ⟨hx, hclass⟩)
    simp [hnil, mem_ofClass]
    tauto
  · simp [hnil, mem_ofClass]

/-- The errors are the responses that say so, and `default` beside an explicit success. -/
lemma mem_errors_iff : x ∈ op.errors ↔ x ∈ op.responses
    ∧ (BeginsWith '4' x.1 ∨ BeginsWith '5' x.1
      ∨ x.1 = "default" ∧ ∃ y ∈ op.responses, BeginsWith '2' y.1) := by
  have hexplicit := op.ofClass_ne_nil_iff .success
  simp only [ofStatus_eq_success_iff] at hexplicit
  rw [errors, ← hexplicit, ← or_assoc, ← ofStatus_eq_error_iff, ← ofStatus_eq_default_iff]
  by_cases hnil : op.ofClass .success = []
  · simp [hnil, mem_ofClass]
  · simp [hnil, mem_ofClass, and_or_left]

/-- A response whose status says anything about the outcome is either a success or an error. -/
lemma mem_successes_iff_notMem_errors (hx : x ∈ op.responses) (hstatus : x.1 = "default"
      ∨ BeginsWith '2' x.1 ∨ BeginsWith '4' x.1 ∨ BeginsWith '5' x.1) :
    x ∈ op.successes ↔ x ∉ op.errors := by
  rw [← ofStatus_eq_default_iff, ← ofStatus_eq_error_iff, ← ofStatus_eq_success_iff] at hstatus
  rw [mem_successes_iff, mem_errors_iff, ← or_assoc, ← ofStatus_eq_error_iff,
    ← ofStatus_eq_success_iff x.1, ← ofStatus_eq_default_iff x.1]
  cases hclass : StatusClass.ofStatus x.1 <;> simp_all

end Operation

/-! ### Schemas that count -/

namespace Responses

/-- The schemas of responses, each once. Of schemas that agree the first one is there. -/
def different (rs : Responses) : List Schema := distinct (rs.values.map Response.schema)

/-- A void schema is left out beside different ones. -/
def LeavesOut (rs : Responses) (s : Schema) : Prop :=
  1 < rs.different.length ∧ s.hasShape .void = true

variable {rs : Responses} {s : Schema} {x : String × Response}

lemma exists_of_mem_schemas (h : s ∈ rs.values.map Response.schema) :
    ∃ x ∈ rs, x.2.schema = s := by
  obtain ⟨response, hresponse, rfl⟩ := List.mem_map.mp h
  obtain ⟨x, hx, rfl⟩ := List.mem_map.mp hresponse
  exact ⟨x, hx, rfl⟩

lemma exists_of_mem_different (h : s ∈ rs.different) : ∃ x ∈ rs, x.2.schema = s :=
  exists_of_mem_schemas (mem_of_mem_distinct h)

/-- What a group of responses have in common is made of the schemas that count. -/
lemma exists_schema?_eq (rs : Responses) : ∃ counting : List Schema,
    (∀ s, s ∈ counting ↔ s ∈ rs.different ∧ ¬ rs.LeavesOut s)
      ∧ rs.schema? = if counting.isEmpty then none else some (Schema.composed counting .or) := by
  refine ⟨_, fun s => ?_, rfl⟩
  unfold LeavesOut different
  split_ifs with hseveral
  · simp [hseveral]
  · simp [hseveral]

/-- Every response that is not left out has a schema that counts, or one that agrees with such a
schema of a response before it. -/
lemma exists_agrees {front back : Responses} (hrs : rs = front ++ x :: back)
    (hout : ¬ rs.LeavesOut x.2.schema) :
    ∃ y ∈ front ++ [x], y ∈ rs ∧ y.2.schema ∈ rs.different ∧ ¬ rs.LeavesOut y.2.schema
      ∧ (y.2.schema = x.2.schema ∨ y.2.schema.agrees x.2.schema = true) := by
  have hsplit : rs.values.map Response.schema
      = front.values.map Response.schema ++ x.2.schema :: back.values.map Response.schema := by
    simp [hrs, Entries.values]
  obtain ⟨s, hs, hbefore, hagrees⟩ := exists_mem_distinct (front.values.map Response.schema)
    x.2.schema (back.values.map Response.schema)
  have hshape : s.shape = x.2.schema.shape := hagrees.elim (fun h => h ▸ rfl)
    Schema.shape_eq_of_agrees
  have hbefore : s ∈ (Entries.values (front ++ [x])).map Response.schema := by
    simpa [Entries.values] using hbefore
  obtain ⟨y, hy, rfl⟩ := exists_of_mem_schemas hbefore
  have hmem : y ∈ rs := by
    rw [hrs, List.append_cons]
    exact List.mem_append_left _ hy
  refine ⟨y, hy, hmem, ?_, fun h => hout ⟨h.1, ?_⟩, hagrees⟩
  · rwa [different, hsplit]
  · rw [Schema.hasShape, ← hshape]
    exact h.2

/-- Responses have nothing in common only if all of them are left out. -/
lemma leavesOut_of_schema?_eq_none (h : rs.schema? = none) (hx : x ∈ rs) :
    rs.LeavesOut x.2.schema := by
  obtain ⟨counting, hcounting, hschema⟩ := rs.exists_schema?_eq
  obtain rfl : counting = [] := by
    by_contra hnil
    simp [hschema, hnil] at h
  by_contra hout
  obtain ⟨front, back, hrs⟩ := List.append_of_mem hx
  obtain ⟨y, -, -, hy, hout', -⟩ := exists_agrees hrs hout
  exact List.not_mem_nil ((hcounting _).mpr ⟨hy, hout'⟩)

/-- What they have in common is composed of the schemas that count. -/
lemma exists_of_schema?_eq_some (h : rs.schema? = some s) : ∃ counting : List Schema,
    counting ≠ [] ∧ (∀ s, s ∈ counting ↔ s ∈ rs.different ∧ ¬ rs.LeavesOut s)
      ∧ s = Schema.composed counting .or := by
  obtain ⟨counting, hcounting, hschema⟩ := rs.exists_schema?_eq
  by_cases hnil : counting = []
  · simp [hschema, hnil] at h
  · rw [hschema, if_neg (by simpa using hnil)] at h
    exact ⟨counting, hnil, hcounting, (Option.some.inj h).symm⟩

lemma exists_counting (h : rs.schema? = some s) : ∃ x ∈ rs, ¬ rs.LeavesOut x.2.schema := by
  obtain ⟨counting, hnil, hcounting, -⟩ := exists_of_schema?_eq_some h
  obtain ⟨s, hs⟩ := List.exists_mem_of_ne_nil _ hnil
  obtain ⟨x, hx, rfl⟩ := exists_of_mem_different ((hcounting s).mp hs).1
  exact ⟨x, hx, ((hcounting _).mp hs).2⟩

end Responses

end Model

namespace Types

open OpenApiTypes.Config (TypesOptions)
open OpenApiTypes.Generation (Pipeline Runs Session runs_addTo_iff runs_bind_iff runs_ofNames_iff
  runs_pure_iff runs_request_iff)
open OpenApiTypes.Model
open OpenApiTypes.Output (Registry)
open OpenApiTypes.TypeScript (Property Stmt TypeExpr unionOf)

variable {α : Type} {conversions : Conversions} {r : Registry} {σ σ' : Session} {u : Unit}
  {nodes : List Stmt} {rs : Responses} {id : String} {byStatus any : OperationType}

/-! ### Types of responses -/

/-- The member that a response becomes under the names of a registry. -/
def memberUnder (conversions : Conversions) (r : Registry) (x : String × Response) :
    Property TypeExpr :=
  { name := x.1, type := typeUnder conversions r x.2.schema, comment := x.2.description.toList }

/-- The type of responses by status has a member for each. -/
lemma gives_membersUnder (conversions : Conversions) (rs : Responses) :
    Gives (statusType conversions rs) fun r t =>
      t = .object (rs.map (memberUnder conversions r)) none := by
  have hmembers : Gives (rs.mapM fun x => responseMember conversions x.1 x.2)
      fun r ps => ps = rs.map (memberUnder conversions r) := by
    induction rs with
    | nil => exact .pure fun _ => rfl
    | cons x rs ih =>
      rw [List.mapM_cons]
      have hmember : Gives (responseMember conversions x.1 x.2) fun r p =>
          p = memberUnder conversions r x :=
        (gives_typeUnder conversions x.2.schema).bind fun t => .pure fun r ht => by
          rw [ht, memberUnder]
      refine hmember.bind fun p => ih.bind fun ps => .pure fun r hps hp => ?_
      rw [hp, hps, List.map_cons]
  exact hmembers.bind fun ps => .pure fun r hps => by rw [hps]

/-- The union members of the type of a composition of alternatives are those of the types of
these. -/
lemma gives_alternatives_composed (conversions : Conversions) {ss : List Schema} (hne : ss ≠ []) :
    Gives (typeOf conversions (.composed ss .or)) fun r t => t.Flat
      ∧ ∀ v, v ∈ t.alternatives ↔ ∃ s ∈ ss, v ∈ (typeUnder conversions r s).alternatives := by
  match ss with
  | [s] =>
    refine (gives_typeUnder conversions s).imp fun r t ht => ?_
    rw [ht]
    exact ⟨flat_typeUnder conversions r s, by simp⟩
  | s :: s' :: rest =>
    have hunion : (Schema.composed (s :: s' :: rest) .or).isOpenUnion = true := rfl
    rw [typeOf_openUnion hunion rfl, map_eq_pure_bind]
    refine (gives_typesUnder conversions (s :: s' :: rest)).bind fun ts => .pure fun r hts => ?_
    have hflat : ∀ t ∈ ts, t.Flat := by
      intro t ht
      rw [hts] at ht
      obtain ⟨x, -, rfl⟩ := List.mem_map.mp ht
      exact flat_typeUnder conversions r x
    refine ⟨TypeScript.flat_unionOf hflat, fun v => ?_⟩
    rw [TypeScript.mem_alternatives_unionOf hflat (by simp [hts]), hts]
    simp only [List.mem_map, exists_exists_and_eq_and]

/-- The union members of the type of what responses have in common are those of the types of the
responses that count. -/
lemma gives_alternatives_schema? (conversions : Conversions) {s : Schema}
    (h : rs.schema? = some s) : Gives (typeOf conversions s) fun r t =>
      (∀ v ∈ t.alternatives, v.isUnion = false)
        ∧ ∀ v, v ∈ t.alternatives ↔ ∃ x ∈ rs, ¬ rs.LeavesOut x.2.schema
          ∧ x.2.schema ∈ rs.different ∧ v ∈ (memberUnder conversions r x).type.alternatives := by
  obtain ⟨counting, hnil, hcounting, rfl⟩ := Responses.exists_of_schema?_eq_some h
  refine (gives_alternatives_composed conversions hnil).imp fun r t h =>
    ⟨fun v => h.1.isUnion_of_mem_alternatives, fun v => (h.2 v).trans ⟨?_, ?_⟩⟩
  · rintro ⟨s, hs, hv⟩
    obtain ⟨hdifferent, hout⟩ := (hcounting s).mp hs
    obtain ⟨y, hy, rfl⟩ := Responses.exists_of_mem_different hdifferent
    exact ⟨y, hy, hout, hdifferent, hv⟩
  · rintro ⟨y, -, hout, hdifferent, hv⟩
    exact ⟨_, (hcounting _).mpr ⟨hdifferent, hout⟩, hv⟩

/-! ### Statements for responses -/

/-- The statements for a group of responses. Their types by status come first. The union of those
that count follows, if any does: its members are those of the types of all responses that are not
left out, where a response whose schema agrees with an earlier one shares the type of that. -/
inductive DeclaresGroup (conversions : Conversions) (r : Registry) (id : String) (rs : Responses)
    (byStatus any : OperationType) : List Stmt → Prop
  | nothing (hrs : rs = []) : DeclaresGroup conversions r id rs byStatus any []
  | single {name : String} (hrs : rs ≠ []) (hout : ∀ x ∈ rs, rs.LeavesOut x.2.schema)
      (hname : r.status? (operationReference id byStatus) .type fileId = some (.active name)) :
      DeclaresGroup conversions r id rs byStatus any
        [.typeAlias name true (.object (rs.map (memberUnder conversions r)) none) []]
  | pair {name name' : String} {t : TypeExpr} (hin : ∃ x ∈ rs, ¬ rs.LeavesOut x.2.schema)
      (hname : r.status? (operationReference id byStatus) .type fileId = some (.active name))
      (hname' : r.status? (operationReference id any) .type fileId = some (.active name'))
      (hflat : ∀ v ∈ t.alternatives, v.isUnion = false)
      (hmem : ∀ v, v ∈ t.alternatives ↔ ∃ x ∈ rs, ¬ rs.LeavesOut x.2.schema
        ∧ x.2.schema ∈ rs.different ∧ v ∈ (memberUnder conversions r x).type.alternatives) :
      DeclaresGroup conversions r id rs byStatus any
        [.typeAlias name true (.object (rs.map (memberUnder conversions r)) none) [],
          .typeAlias name' true t []]

/-- The file of types consists of certain statements so far, and no name in it is withdrawn. -/
structure Writes (nodes : List Stmt) (σ : Session) : Prop where
  active : σ.registry.Unwithdrawn fileId
  file : ∃ file, σ.files.get? fileId = some file ∧ file.nodes = nodes

namespace Writes

lemma ofNames {x : StateM Registry α} {result : Registry → α → Prop} {a : α}
    (h : Writes nodes σ) (hx : Gives x result) (hrun : Runs (Generation.ofNames x) σ a σ') :
    Writes nodes σ' ∧ σ.registry.Extends σ'.registry
      ∧ ∀ r, σ'.registry.Extends r → result r a := by
  obtain ⟨rfl, rfl⟩ := runs_ofNames_iff.mp hrun
  obtain ⟨hgrows, hresult⟩ := hx σ.registry
  exact ⟨⟨hgrows.unwithdrawn h.active, h.file⟩, hgrows.keeps, hresult⟩

/-- A type is declared under the name of its reference. -/
lemma declare {pointer : String} {t : TypeExpr} {comment : List String} (h : Writes nodes σ)
    (hrun : Runs (Types.declare pointer t comment) σ u σ') :
    ∃ name, Writes (nodes ++ [.typeAlias name true t comment]) σ'
      ∧ σ.registry.Extends σ'.registry
      ∧ σ'.registry.status? pointer .type fileId = some (.active name) := by
  simp only [Types.declare, runs_bind_iff] at hrun
  obtain ⟨i, σ₁, hrequest, hrun⟩ := hrun
  obtain ⟨rfl, rfl⟩ := runs_request_iff.mp hrequest
  obtain ⟨name, created, hname⟩ := h.active.exists_name pointer .type
  rw [hname] at hrun
  obtain ⟨file, hfile, rfl⟩ := runs_addTo_iff.mp hrun
  obtain ⟨file', hfile', rfl⟩ := h.file
  obtain rfl : file' = file := Option.some.inj (hfile'.symm.trans hfile)
  exact ⟨name, ⟨h.active.request pointer .type, _, Entries.get?_put_self _ _ _, rfl⟩,
    Registry.extends_request _ _ _ _, Registry.status?_request (by rw [hname]; rfl)⟩

end Writes

/-- The generator of types adds the statements for a group of responses. -/
lemma declaresGroup_declareResponses (h : Writes nodes σ)
    (hrun : Runs (declareResponses conversions id rs byStatus any) σ u σ') :
    ∃ statements, Writes (nodes ++ statements) σ' ∧ σ.registry.Extends σ'.registry
      ∧ ∀ r, σ'.registry.Extends r → DeclaresGroup conversions r id rs byStatus any statements := by
  unfold declareResponses at hrun
  split at hrun
  · rename_i hempty
    obtain ⟨-, rfl⟩ := runs_pure_iff.mp hrun
    exact ⟨[], by rwa [List.append_nil], .refl _, fun r _ => .nothing (List.isEmpty_iff.mp hempty)⟩
  rename_i hempty
  simp only [runs_bind_iff] at hrun
  obtain ⟨t, σ₁, htype, _, σ₂, hdeclare, hrun⟩ := hrun
  obtain ⟨h₁, hextends₁, hmembers⟩ := h.ofNames (gives_membersUnder conversions rs) htype
  obtain ⟨name, h₂, hextends₂, hname⟩ := h₁.declare hdeclare
  cases hschema : rs.schema? with
  | none =>
    rw [hschema] at hrun
    obtain ⟨-, rfl⟩ := runs_pure_iff.mp hrun
    refine ⟨_, h₂, hextends₁.trans hextends₂, fun r hr => ?_⟩
    rw [hmembers r (hextends₂.trans hr)]
    exact .single (by simpa using hempty)
      (fun x => Responses.leavesOut_of_schema?_eq_none hschema) (hr hname)
  | some s =>
    simp only [hschema, runs_bind_iff] at hrun
    obtain ⟨t', σ₃, htype', hdeclare'⟩ := hrun
    obtain ⟨h₃, hextends₃, halternatives⟩ :=
      h₂.ofNames (gives_alternatives_schema? conversions hschema) htype'
    obtain ⟨name', h₄, hextends₄, hname'⟩ := h₃.declare hdeclare'
    refine ⟨_, by rwa [List.append_assoc] at h₄,
      (hextends₁.trans hextends₂).trans (hextends₃.trans hextends₄), fun r hr => ?_⟩
    -- The names that were given before are still given.
    have hr₃ := hextends₄.trans hr
    have hr₂ := hextends₃.trans hr₃
    obtain ⟨hflat, hmem⟩ := halternatives r hr₃
    rw [hmembers r (hextends₂.trans hr₂)]
    exact .pair (Responses.exists_counting hschema) (hr₂ hname) (hr hname') hflat hmem

/-- For an operation, those for its errors and those for its successes follow its request. -/
lemma declaresGroups_declareOperation {op : Operation} (h : Writes nodes σ)
    (hrun : Runs (declareOperation conversions op) σ u σ') :
    ∃ data errors successes, Writes (nodes ++ data :: (errors ++ successes)) σ'
      ∧ ∀ r, σ'.registry.Extends r →
        DeclaresGroup conversions r op.id op.errors .errors .error errors
          ∧ DeclaresGroup conversions r op.id op.successes .responses .response successes := by
  simp only [declareOperation, runs_bind_iff] at hrun
  obtain ⟨t, σ₁, htype, _, σ₂, hdeclare, _, σ₃, herrors, hsuccesses⟩ := hrun
  obtain ⟨h₁, -⟩ := h.ofNames (gives_dataType conversions op) htype
  obtain ⟨name, h₂, -⟩ := h₁.declare hdeclare
  obtain ⟨errors, h₃, -, hdeclares⟩ := declaresGroup_declareResponses h₂ herrors
  obtain ⟨successes, h₄, hextends, hdeclares'⟩ := declaresGroup_declareResponses h₃ hsuccesses
  exact ⟨_, errors, successes, by simpa using h₄,
    fun r hr => ⟨hdeclares r (hextends.trans hr), hdeclares' r hr⟩⟩

/-! ### The whole file -/

/-- The generator of types goes on writing. -/
lemma kept_writes : Kept fun σ => ∃ nodes, Writes nodes σ where
  names := by
    rintro α x result hx σ a σ' hrun ⟨nodes, h⟩
    exact ⟨nodes, (h.ofNames hx hrun).1⟩
  addTo := by
    rintro s σ a σ' hrun ⟨nodes, h⟩
    obtain ⟨file, -, rfl⟩ := runs_addTo_iff.mp hrun
    exact ⟨_, h.active, _, Entries.get?_put_self _ _ _, rfl⟩

/-- What it has written stays where it is, and the names stay given. -/
lemma kept_written (statements : List Stmt) (r : Registry) : Kept fun σ =>
    r.Extends σ.registry ∧ ∃ before after file, σ.files.get? fileId = some file
      ∧ file.nodes = before ++ statements ++ after where
  names := by
    rintro α x result hx σ a σ' hrun ⟨hextends, hfile⟩
    obtain ⟨-, rfl⟩ := runs_ofNames_iff.mp hrun
    exact ⟨hextends.trans (hx σ.registry).1.keeps, hfile⟩
  addTo := by
    rintro s σ a σ' hrun ⟨hextends, before, after, file, hfile, hnodes⟩
    obtain ⟨file', hfile', rfl⟩ := runs_addTo_iff.mp hrun
    obtain rfl : file = file' := Option.some.inj (hfile.symm.trans hfile')
    refine ⟨hextends, before, after ++ [s], _, Entries.get?_put_self _ _ _, ?_⟩
    rw [Output.File.add, hnodes, List.append_assoc _ after]

/-- The file of types has these statements for every operation. -/
lemma declaresGroups_run {setting : Generation.Setting} {options : TypesOptions} {op : Operation}
    (hrun : Runs (run setting options) {} u σ) (hop : op ∈ setting.model.operations) :
    ∃ before data errors successes after file, σ.files.get? fileId = some file
      ∧ file.nodes = before ++ data :: (errors ++ successes) ++ after
      ∧ ∀ r, σ.registry.Extends r →
        DeclaresGroup (conversionsOf setting.config) r op.id op.errors .errors .error errors
          ∧ DeclaresGroup (conversionsOf setting.config) r op.id op.successes .responses .response
            successes := by
  obtain ⟨_, σ₁, hcreate, hrun⟩ := runs_bind_iff.mp hrun
  have hevent : .operation op ∈ typeEvents setting.model := by
    rw [typeEvents_eq]
    simpa using hop
  obtain ⟨front, rest, σ₂, σ₃, -, hfront, hstep, hrest⟩ := Runs.exists_of_mem hrun hevent
  have h₁ : ∃ nodes, Writes nodes σ₁ := by
    obtain rfl := Generation.runs_createFile_iff.mp hcreate
    exact ⟨_, (Registry.unwithdrawn_nil fileId).registerFile _ _, _, Entries.get?_put_self _ _ _,
      rfl⟩
  obtain ⟨nodes, h₂⟩ :=
    Generation.Keeps.forM (fun e _ => kept_writes.declareEvent options e) hfront h₁
  obtain ⟨data, errors, successes, h₃, hdeclares⟩ := declaresGroups_declareOperation h₂ hstep
  obtain ⟨file₃, hfile₃, hnodes₃⟩ := h₃.file
  obtain ⟨hextends, before, after, file, hfile, hnodes⟩ :=
    Generation.Keeps.forM (fun e _ => (kept_written (data :: (errors ++ successes))
      σ₃.registry).declareEvent options e) hrest
      ⟨.refl _, nodes, [], file₃, hfile₃, by rw [List.append_nil, hnodes₃]⟩
  exact ⟨before, data, errors, successes, after, file, hfile, hnodes,
    fun r hr => hdeclares r (hextends.trans hr)⟩

/-- What the generator of types knows of names, the end of the session knows. -/
lemma extends_of_run {setting : Generation.Setting} {options : TypesOptions}
    (hrun : Runs (run setting options) {} u σ)
    (hsame : ∀ pointer ns, r.status? pointer ns fileId = σ.registry.status? pointer ns fileId) :
    σ.registry.Extends r := by
  intro pointer ns id e he
  by_cases hid : id = fileId
  · subst hid
    exact (hsame pointer ns).trans he
  · rw [((creates_run setting options hrun).2 id hid).2, Registry.status?_nil] at he
    cases he

/-- The file of types has these statements for every operation of any model, under every
configuration. Of schemas that agree the first one counts, whatever the order of their properties.
**Every response says either that a request succeeded or that it failed**, unless its status says
nothing of this. -/
theorem declaresGroups_of_session {api : Api} {config : Config} {p : Pipeline}
    {options : TypesOptions} {op : Operation} (hp : Pipeline.ofConfig config = .ok p)
    (hσ : p.session ⟨api, config⟩ = .ok σ) (hoptions : .types options ∈ p)
    (hop : op ∈ api.operations) :
    (∃ before data errors successes after file, σ.files.get? fileId = some file
        ∧ file.nodes = before ++ data :: (errors ++ successes) ++ after
        ∧ DeclaresGroup (conversionsOf config) σ.registry op.id op.errors .errors .error errors
        ∧ DeclaresGroup (conversionsOf config) σ.registry op.id op.successes .responses .response
          successes)
      ∧ (∀ rs ∈ [op.errors, op.successes], (rs.different.Pairwise fun s t => s.agrees t = false)
        ∧ ∀ front x back, rs = front ++ x :: back → ¬ rs.LeavesOut x.2.schema →
          ∃ y ∈ front ++ [x], y ∈ rs ∧ y.2.schema ∈ rs.different ∧ ¬ rs.LeavesOut y.2.schema
            ∧ (y.2.schema = x.2.schema ∨ y.2.schema.agrees x.2.schema = true))
      ∧ (∀ x, x ∈ op.successes ↔ x ∈ op.responses
        ∧ (BeginsWith '2' x.1 ∨ x.1 = "default" ∧ ¬ ∃ y ∈ op.responses, BeginsWith '2' y.1))
      ∧ (∀ x, x ∈ op.errors ↔ x ∈ op.responses ∧ (BeginsWith '4' x.1 ∨ BeginsWith '5' x.1
        ∨ x.1 = "default" ∧ ∃ y ∈ op.responses, BeginsWith '2' y.1))
      ∧ ∀ x ∈ op.responses, (x.1 = "default" ∨ BeginsWith '2' x.1 ∨ BeginsWith '4' x.1
        ∨ BeginsWith '5' x.1) → (x ∈ op.successes ↔ x ∉ op.errors) := by
  obtain ⟨σ₁, hrun, hfiles, hnames⟩ := Transformers.types_run_of_mem hp hσ hoptions
  obtain ⟨before, data, errors, successes, after, file, hfile, hnodes, hdeclares⟩ :=
    declaresGroups_run hrun hop
  exact ⟨⟨before, data, errors, successes, after, file, hfiles.trans hfile, hnodes,
      hdeclares _ (extends_of_run hrun hnames)⟩,
    fun rs _ => ⟨pairwise_distinct _, fun _ _ _ => Responses.exists_agrees⟩,
    fun _ => Operation.mem_successes_iff, fun _ => Operation.mem_errors_iff,
    fun _ => Operation.mem_successes_iff_notMem_errors⟩

/-- An operation that has certain responses. -/
def responding (schemas : List (String × Schema)) : Operation where
  id := "getPet"
  method := .get
  path := "/pet"
  operationId := none
  summary := none
  description := none
  deprecated := false
  tags := []
  parameters := {}
  body := none
  responses := schemas.map fun (status, s) => (status, ⟨none, none, s⟩)
  security := []
  servers := []

/-- A pet or nothing, in different ways, and errors that say nothing. -/
def maybePet : Operation :=
  responding [("200", Schema.composed [.reference (Pointer.schema "Pet"), .ofShape .null] .or),
    ("default", .ofShape .void), ("204", .ofShape .void), ("404", .ofShape .void)]

/-- A model with one operation. -/
def modelWith (op : Operation) : Api where
  paths := [(op.path, [(op.method, op)])]
  components := { schemas := [("Pet", .ofShape .string)] }

/-- Nothing counts beside the pet, but among the errors it does. -/
theorem declaresGroups_of_session_maybePet :
    ∃ σ, Pipeline.ofConfig { generators := [.types {}] } = .ok [.types {}]
      ∧ Pipeline.session [.types {}] ⟨modelWith maybePet, { generators := [.types {}] }⟩ = .ok σ
      ∧ maybePet ∈ (modelWith maybePet).operations
      ∧ maybePet.successes.keys = ["200", "204"] ∧ maybePet.errors.keys = ["404", "default"]
      ∧ maybePet.successes.LeavesOut (.ofShape .void) ∧ ¬ maybePet.errors.LeavesOut (.ofShape .void)
      ∧ ∃ errors successes file, σ.files.get? fileId = some file
        ∧ errors ++ successes <:+: file.nodes
        ∧ DeclaresGroup {} σ.registry "getPet" maybePet.errors .errors .error errors
        ∧ DeclaresGroup {} σ.registry "getPet" maybePet.successes .responses .response
          successes := by
  have hsession : (Pipeline.session [.types {}]
      ⟨modelWith maybePet, { generators := [.types {}] }⟩).toOption.isSome = true := by
    decide +kernel
  obtain ⟨σ, hσ⟩ := Option.isSome_iff_exists.mp hsession
  have hσ := Generation.eq_ok_of_toOption hσ
  have hop : maybePet ∈ (modelWith maybePet).operations := by
    simp [modelWith, Api.operations, Entries.values]
  obtain ⟨⟨before, data, errors, successes, after, file, hfile, hnodes, herrors, hsuccesses⟩, -⟩ :=
    declaresGroups_of_session rfl hσ List.mem_cons_self hop
  refine ⟨σ, rfl, hσ, hop, by decide +kernel, by decide +kernel, ⟨by decide +kernel, rfl⟩,
    fun h => absurd h.1 (by decide +kernel), errors, successes, file, hfile,
    ⟨before ++ [data], after, ?_⟩, herrors, hsuccesses⟩
  simp [hnodes]

/-- The types that statements declare. -/
def aliasTypes (nodes : List Stmt) : List (String × TypeExpr) :=
  nodes.filterMap fun
    | .typeAlias name _ type _ => some (name, type)
    | _ => none

/-- An object with properties that may all be missing. -/
def withProperties (properties : List (String × Shape)) : Schema where
  shape := some .object
  properties := properties.map fun (name, shape) => (name, .ofShape shape)

/-- The same properties in two orders. -/
def twoOrders : Operation :=
  responding [("200", withProperties [("id", .integer), ("name", .string)]),
    ("201", withProperties [("name", .string), ("id", .integer)])]

/-- The second response is not void, but no alternative of the type of both is its type. -/
theorem exists_unlisted : ∃ σ file members any,
    Pipeline.session [.types {}] ⟨modelWith twoOrders, { generators := [.types {}] }⟩ = .ok σ
      ∧ σ.files.get? fileId = some file
      ∧ ("GetPetResponses", .object members none) ∈ aliasTypes file.nodes
      ∧ ("GetPetResponse", any) ∈ aliasTypes file.nodes
      ∧ (∀ x ∈ twoOrders.successes, x.2.schema.hasShape .void = false)
      ∧ ∃ m ∈ members, ∃ v ∈ m.type.alternatives, v ∉ any.alternatives := by
  let id : Property TypeExpr := { name := "id", optional := true, type := .keyword .number }
  let name : Property TypeExpr := { name := "name", optional := true, type := .keyword .string }
  have hsession : ((Pipeline.session [.types {}]
      ⟨modelWith twoOrders, { generators := [.types {}] }⟩).toOption.bind fun σ =>
        (σ.files.get? fileId).map fun file => (aliasTypes file.nodes).drop 2)
      = some [("GetPetResponses", .object [{ name := "200", type := .object [id, name] none },
          { name := "201", type := .object [name, id] none }] none),
        ("GetPetResponse", .object [id, name] none)] := by decide +kernel
  obtain ⟨σ, hσ, hfile⟩ := Option.bind_eq_some_iff.mp hsession
  obtain ⟨file, hfile, htypes⟩ := Option.map_eq_some_iff.mp hfile
  have hmem : ∀ x ∈ (aliasTypes file.nodes).drop 2, x ∈ aliasTypes file.nodes :=
    fun x => List.mem_of_mem_drop
  rw [htypes] at hmem
  refine ⟨σ, file, _, _, Generation.eq_ok_of_toOption hσ, hfile, hmem _ List.mem_cons_self,
    hmem _ (List.mem_cons_of_mem _ List.mem_cons_self), by decide +kernel,
    { name := "201", type := .object [name, id] none }, by simp, .object [name, id] none, ?_, ?_⟩
  · decide +kernel
  · decide +kernel

end Types

end OpenApiTypes
