/-
The order of operations.

* `Transformers.Finished`: what holds of the names and functions of a finished session in which no
  schema was too deep;
* `Transformers.Finished.exists_active`: there is a function for whatever is asked for and is not
  blank, in whichever order;
* `Transformers.Emits.renamed_eq`: under other names, statements are the same but for the names;
* `Transformers.Renames`: the functions of one session are those of another one under other names;
* `Transformers.renames_of_session`: so are those of a model whose operations stand in another
  order;
* `Transformers.OrderModel.exists_order_matters`: where schemas are too deep, the order decides
  which functions there are.
-/
import OpenApiTypes.Proofs.Transformers.Module
import OpenApiTypes.Proofs.TypeScript.Renaming
import Mathlib.Data.List.Perm.Basic

namespace OpenApiTypes.Transformers

open OpenApiTypes.Generation (Pipeline Session)
open OpenApiTypes.Model
open OpenApiTypes.Output (Registry)
open OpenApiTypes.TypeScript
open OpenApiTypes.Config (TransformersOptions)

variable {options : TransformersOptions} {api api' : Api} {σ σ' : Session} {f : Function}
  {s t : Schema} {p name : String} {ρ : String → String} {target : Expr} {stmts body : List Stmt}

/-! ### Finished sessions -/

/-- The function that is known under a reference: its parameter and its body. -/
def function? (σ : Session) (p : String) : Option (String × List Stmt) := do
  match ← σ.registry.status? p .value fileId with
  | .active name => (← σ.files.get? fileId).nodes.findSome? (Stmt.function? name)
  | .suppressed _ => none

/-- What holds of the names and functions of a session after all operations, if no schema was too
deep. -/
structure Finished (options : TransformersOptions) (api : Api) (σ : Session) : Prop where
  unambiguous : Unambiguous options api
  distinct : σ.registry.Distinct .value fileId
  known : ∀ {p e}, σ.registry.status? p .value fileId = some e →
    RequestedBy options api.catalog api.operations p
      ∨ ∃ op ∈ api.operations, (Function.response op).reference? options = some p
  named : ∀ op ∈ api.operations, (responseSchema? op).isSome → ∃ p e,
    (Function.response op).reference? options = some p
      ∧ σ.registry.status? p .value fileId = some e
  active : ∀ {p name}, σ.registry.status? p .value fileId = some (.active name) →
    ∃ (f : Function) (s : Schema) (body : List Stmt), f.BelongsTo api
      ∧ f.reference? options = some p ∧ f.schema? api = some s
      ∧ Emits options False σ.registry s data body ∧ body ≠ []
      ∧ function? σ p = some ("data", returning data (guardedBody s data body))
  withdrawn : ∀ {p name}, σ.registry.status? p .value fileId = some (.suppressed name) →
    Withdrawn options api False p

lemma Complete.finished (h : Complete options api api.operations σ)
    (hsame : Unambiguous options api) (hwhole : ¬ Truncated σ.diagnostics) :
    Finished options api σ := by
  obtain ⟨declared, hσ⟩ := h.coherent
  refine ⟨hsame, hσ.distinct, h.known, h.named, fun {p name} hentry => ?_,
    fun hentry => (hσ.withdrawn hentry).mono hwhole⟩
  obtain ⟨f, s, hf, hreference, hs⟩ := hσ.exists_of_active hentry
  obtain ⟨body, hemits, hne, hfunction⟩ := hσ.exists_body hwhole hsame hf hreference hs hentry
  obtain ⟨file, hfile, hnodes⟩ := hσ.file
  refine ⟨f, s, body, hf, hreference, hs, hemits, hne, ?_⟩
  simp [function?, hentry, hfile, hnodes, hfunction]

namespace Finished

variable (h : Finished options api σ)
include h

/-- The function that a name was given for is that of the schema. -/
lemma exists_emits (hf : f.BelongsTo api) (hreference : f.reference? options = some p)
    (hs : f.schema? api = some s)
    (hentry : σ.registry.status? p .value fileId = some (.active name)) :
    ∃ body, Emits options False σ.registry s data body ∧ body ≠ []
      ∧ function? σ p = some ("data", returning data (guardedBody s data body)) := by
  obtain ⟨f', t, body, hf', hreference', ht, hemits, hne, hfunction⟩ := h.active hentry
  obtain rfl : t = s := Option.some.inj
    (ht.symm.trans ((h.unambiguous hf' hf hreference' hreference).trans hs))
  exact ⟨body, hemits, hne, hfunction⟩

lemma blank (hf : f.BelongsTo api) (hreference : f.reference? options = some p)
    (hs : f.schema? api = some s)
    (hentry : σ.registry.status? p .value fileId = some (.suppressed name)) :
    Blank options api False s := by
  obtain ⟨f', hf', hreference', hblank⟩ := h.withdrawn hentry
  exact hblank s ((h.unambiguous hf' hf hreference' hreference).trans hs)

lemma sound : Sound options api False σ.registry := by
  refine ⟨h.unambiguous, fun hentry => ?_, h.withdrawn⟩
  obtain ⟨f, s, body, hf, hreference, hs, hemits, hne, -⟩ := h.active hentry
  exact ⟨f, s, body, hf, hreference, hs, hemits, hne⟩

/-- A schema that follows one with statements has statements, unless it is blank. -/
lemma exists_emits_of_follows (he : Emits options False σ.registry s target stmts)
    (hstep : Follows api.catalog s t) (ht : ¬ Blank options api False t) :
    ∃ target stmts, Emits options False σ.registry t target stmts := by
  cases hstep with
  | @component _ pointer hpointer hfind =>
    have hcomponent : Pointer.schemaName? pointer ≠ none := by
      intro hnone
      simp [Catalog.find?, hnone] at hfind
    obtain ⟨p, name, hreference, ⟨hentry, rfl⟩ | ⟨hentry, rfl⟩⟩ :=
      (he.of_pointer hpointer hcomponent).resolve_left And.left
    · obtain ⟨body, hemits, -⟩ :=
        h.exists_emits (f := .helper pointer) trivial hreference hfind hentry
      exact ⟨data, body, hemits⟩
    · exact absurd (h.blank (f := .helper pointer) trivial hreference hfind hentry) ht
  | element hpointer hshape hitems =>
    obtain ⟨body, hbody, -⟩ := (he.of_array hpointer hshape hitems).resolve_left And.left
    exact ⟨item, body, hbody⟩
  | property hpointer hshape hproperty =>
    obtain ⟨bodies, hlength, hbodies, -⟩ :=
      (he.of_object hpointer hshape).resolve_left And.left
    obtain ⟨body, hbody⟩ := exists_mem_zip hlength hproperty
    exact ⟨_, body, hbodies _ hbody⟩
  | item hpointer hshape happlies hitem =>
    obtain ⟨bodies, hlength, hbodies, -⟩ :=
      (he.of_composition hpointer hshape happlies (List.ne_nil_of_mem hitem)).resolve_left And.left
    obtain ⟨body, hbody⟩ := exists_mem_zip hlength hitem
    exact ⟨_, body, hbodies _ hbody⟩

lemma exists_emits_of_visits (he : Emits options False σ.registry s target stmts)
    (hvisits : Visits api.catalog s t) (ht : ¬ Blank options api False t) :
    ∃ target stmts, Emits options False σ.registry t target stmts := by
  induction hvisits with
  | refl => exact ⟨target, stmts, he⟩
  | tail _ hstep ih =>
    obtain ⟨_, _, hu⟩ := ih fun hblank => ht (hblank.follows h.unambiguous hstep)
    exact h.exists_emits_of_follows hu hstep ht

/-- The function of an operation whose response is not blank has a name. -/
lemma exists_active_response {op : Operation} (hop : op ∈ api.operations)
    (hs : responseSchema? op = some s) (hneeded : ¬ Blank options api False s) : ∃ p name,
      (Function.response op).reference? options = some p
        ∧ σ.registry.status? p .value fileId = some (.active name) := by
  obtain ⟨p, e, hreference, hentry⟩ := h.named op hop (by simp [hs])
  cases e with
  | active name => exact ⟨p, name, hreference, hentry⟩
  | suppressed name =>
    exact absurd (h.blank (f := .response op) hop hreference hs hentry) hneeded

/-- What is asked for and is not blank has a function. -/
lemma exists_active (hf : f.BelongsTo api) (hreference : f.reference? options = some p)
    (hs : f.schema? api = some s) (hneeded : ¬ Blank options api False s)
    (hknown : RequestedBy options api.catalog api.operations p
      ∨ ∃ op ∈ api.operations, (Function.response op).reference? options = some p) :
    ∃ name, σ.registry.status? p .value fileId = some (.active name) := by
  rcases hknown with
    ⟨op, hop, s₀, hs₀, t, pointer, hvisits, hpointer, hreference'⟩ | ⟨op, hop, hop'⟩
  · -- The helper was asked for on the way from the response, which is not blank either.
    have hfind : api.catalog.find? pointer = some s := by
      have hhelper : (Function.helper pointer).BelongsTo api := trivial
      exact (h.unambiguous hf hhelper hreference hreference').symm.trans hs
    have ht : ¬ Blank options api False t := fun hblank =>
      hneeded (hblank.of_component h.unambiguous hpointer hfind)
    obtain ⟨q, name, hq, hentry⟩ := h.exists_active_response hop hs₀ fun hblank =>
      ht (hblank.visits h.unambiguous hvisits)
    obtain ⟨body, hemits, -⟩ := h.exists_emits (f := .response op) hop hq hs₀ hentry
    obtain ⟨target, stmts, he⟩ := h.exists_emits_of_visits hemits hvisits ht
    obtain ⟨p', name', hp', ⟨hentry', -⟩ | ⟨hentry', -⟩⟩ :=
      (he.of_pointer hpointer (schemaName?_ne_none hreference')).resolve_left And.left
    · obtain rfl := Option.some.inj (hreference'.symm.trans hp')
      exact ⟨name', hentry'⟩
    · obtain rfl := Option.some.inj (hreference'.symm.trans hp')
      exact absurd (h.blank hf hreference hs hentry') hneeded
  · have hs' : responseSchema? op = some s :=
      (h.unambiguous hf (show (Function.response op).BelongsTo api from hop) hreference
        hop').symm.trans hs
    obtain ⟨q, name, hq, hentry⟩ := h.exists_active_response hop hs' hneeded
    obtain rfl := Option.some.inj (hop'.symm.trans hq)
    exact ⟨name, hentry⟩

end Finished

/-! ### Other orders -/

/-- Two models with the same components and, in whichever order, the same operations. -/
structure Reordered (api api' : Api) : Prop where
  catalog_eq : api'.catalog = api.catalog
  perm : api'.operations.Perm api.operations

namespace Reordered

variable (h : Reordered api api')
include h

lemma symm : Reordered api' api := ⟨h.catalog_eq.symm, h.perm.symm⟩

lemma belongsTo (hf : f.BelongsTo api) : f.BelongsTo api' := by
  cases f with
  | helper => trivial
  | response op => exact h.perm.mem_iff.mpr hf

lemma schema?_eq : f.schema? api' = f.schema? api := by
  cases f with
  | helper pointer => exact congrArg (Catalog.find? · pointer) h.catalog_eq
  | response op => rfl

lemma blank (hs : Blank options api False s) : Blank options api' False s := by
  induction hs with
  | lost h => exact h.elim
  | foreign hpointer hforeign => exact .foreign hpointer hforeign
  | component hpointer hreference hf hsame _ ih =>
    exact .component hpointer hreference (h.belongsTo hf) hsame
      fun t ht => ih t (h.schema?_eq.symm.trans ht)
  | noElement hpointer hshape hitems => exact .noElement hpointer hshape hitems
  | array hpointer hshape hitems _ ih => exact .array hpointer hshape hitems ih
  | object hpointer hshape _ ih => exact .object hpointer hshape ih
  | fixed hpointer hshape => exact .fixed hpointer hshape
  | leaf hpointer hshape hitems hdate hbigint => exact .leaf hpointer hshape hitems hdate hbigint
  | composition hpointer hshape hitems happlies _ ih =>
    exact .composition hpointer hshape hitems happlies ih
  | union hpointer hshape hitems happlies => exact .union hpointer hshape hitems happlies

/-- A function of one session is one of the other. -/
lemma exists_active (hσ : Finished options api σ) (hσ' : Finished options api' σ')
    (hentry : σ.registry.status? p .value fileId = some (.active name)) :
    ∃ name', σ'.registry.status? p .value fileId = some (.active name') := by
  obtain ⟨f, s, body, hf, hreference, hs, hemits, hne, -⟩ := hσ.active hentry
  refine hσ'.exists_active (h.belongsTo hf) hreference (h.schema?_eq.trans hs)
    (fun hblank => hne (hσ.sound.emits_eq_nil (h.symm.blank hblank) hemits)) ?_
  rcases hσ.known hentry with ⟨op, hop, s₀, hs₀, hrequests⟩ | ⟨op, hop, hop'⟩
  · exact .inl ⟨op, h.perm.mem_iff.mpr hop, s₀, hs₀, h.catalog_eq ▸ hrequests⟩
  · exact .inr ⟨op, h.perm.mem_iff.mpr hop, hop'⟩

end Reordered

/-! ### Other names -/

section

variable (htarget : target.renamed ρ = target)
include htarget

lemma stmtsRenamed_guardedBody : stmtsRenamed ρ (guardedBody s target body)
    = guardedBody s target (stmtsRenamed ρ body) := by
  unfold guardedBody
  rw [isEmpty_stmtsRenamed]
  split
  · rfl
  · simp [stmtsRenamed, Stmt.renamed, isPresent_renamed htarget]

lemma stmtsRenamed_propertyBody {property : String × Schema} :
    stmtsRenamed ρ (propertyBody s target property body)
      = propertyBody s target property (stmtsRenamed ρ body) := by
  have hproperty : (Expr.property target property.1).renamed ρ = .property target property.1 := by
    simp [Expr.renamed, htarget]
  unfold propertyBody
  rw [isEmpty_stmtsRenamed]
  split_ifs
  · rfl
  · rfl
  · simp [stmtsRenamed, Stmt.renamed, isPresent_renamed hproperty]

omit htarget in
lemma stmtsRenamed_itemBody : stmtsRenamed ρ (itemBody body) = itemBody (stmtsRenamed ρ body) := by
  by_cases hbody : ∃ value, body = [.expr (.assign (.identifier "item") value)]
  · obtain ⟨value, rfl⟩ := hbody
    simp [itemBody, stmtsRenamed, Stmt.renamed, Expr.renamed]
  · have hrenamed : ∀ value, stmtsRenamed ρ body
        ≠ [.expr (.assign (.identifier "item") value)] := by
      intro value heq
      rw [stmtsRenamed_eq, List.map_eq_singleton_iff] at heq
      obtain ⟨s, rfl, hs⟩ := heq
      obtain ⟨e, rfl⟩ := Stmt.exists_of_renamed_eq_assign hs
      exact hbody ⟨e, rfl⟩
    have hreturns : (stmtsRenamed ρ body).any Stmt.isReturn = body.any Stmt.isReturn := by
      simp [stmtsRenamed_eq, List.any_map, Function.comp_def]
    rw [itemBody, itemBody, hreturns]
    · split
      · rfl
      · simp [stmtsRenamed, Stmt.renamed, Expr.renamed, item]
    · exact hrenamed
    · exact fun value heq => hbody ⟨value, heq⟩

lemma stmtsRenamed_arrayBody :
    stmtsRenamed ρ (arrayBody target body) = arrayBody target (stmtsRenamed ρ body) := by
  unfold arrayBody
  rw [isEmpty_stmtsRenamed]
  split
  · rfl
  · simp [stmtsRenamed, Stmt.renamed, Expr.renamed, exprsRenamed, functionOf, htarget,
      stmtsRenamed_itemBody]

lemma stmtsRenamed_revive (hbuiltin : ρ "BigInt" = "BigInt") :
    stmtsRenamed ρ (revive options s target) = revive options s target := by
  by_cases hdate : IsDate options s
  · rw [revive_of_isDate hdate]
    simp [stmtsRenamed, Stmt.renamed, Expr.renamed, exprsRenamed, htarget]
  by_cases hbigint : IsBigint options s
  · rw [revive_of_isBigint hbigint]
    simp [stmtsRenamed, Stmt.renamed, Expr.renamed, exprsRenamed, htarget, hbuiltin]
  rw [revive_of_not hdate hbigint]
  rfl

end

lemma stmtsRenamed_returning :
    stmtsRenamed ρ (returning data body) = returning data (stmtsRenamed ρ body) := by
  have hlast : (stmtsRenamed ρ body).getLast? = body.getLast?.map (Stmt.renamed ρ) := by
    rw [stmtsRenamed_eq, List.getLast?_map]
  unfold returning
  rw [hlast]
  cases body.getLast? with
  | none => rfl
  | some last =>
    simp only [Option.map_some, Stmt.isReturn_renamed]
    split
    · rfl
    · simp [stmtsRenamed, Stmt.renamed, Expr.renamed, data]

/-- Lists of statements for the same schemas are renamed if those of each schema are. -/
lemma eq_map_renamed {α : Type} {xs : List α} {bodies bodies' : List (List Stmt)}
    (hlength : bodies.length = xs.length) (hlength' : bodies'.length = xs.length)
    (h : ∀ x body body', (x, body) ∈ xs.zip bodies → (x, body') ∈ xs.zip bodies' →
      body' = stmtsRenamed ρ body) : bodies' = bodies.map (stmtsRenamed ρ) := by
  refine List.ext_getElem (by simp [hlength, hlength']) fun i hi' hi => ?_
  have hi : i < bodies.length := by simpa using hi
  have hx : i < xs.length := hlength ▸ hi
  rw [List.getElem_map]
  refine h xs[i] _ _ (List.mem_iff_getElem.mpr ⟨i, ?_, ?_⟩) (List.mem_iff_getElem.mpr ⟨i, ?_, ?_⟩)
  all_goals first | exact List.getElem_zip | (rw [List.length_zip]; omega)

/-- Under other names, the statements of a schema are the same but for the names. -/
lemma Emits.renamed_eq {r r' : Registry} (hbuiltin : ρ "BigInt" = "BigInt")
    (hactive : ∀ {p name}, r.status? p .value fileId = some (.active name) →
      r'.status? p .value fileId = some (.active (ρ name)))
    (hactive' : ∀ {p name}, r'.status? p .value fileId = some (.active name) →
      ∃ name', r.status? p .value fileId = some (.active name'))
    (h : Emits options False r s target stmts) : ∀ {stmts'}, target.renamed ρ = target →
      Emits options False r' s target stmts' → stmts' = stmtsRenamed ρ stmts := by
  induction h with
  | lost h => exact h.elim
  | foreign hpointer hforeign =>
    intro stmts' _ he
    rw [he.of_foreign hpointer hforeign, stmtsRenamed]
  | @call s target pointer p name hpointer hreference hentry =>
    intro stmts' htarget he
    obtain ⟨q, name', hq, hcases⟩ :=
      (he.of_pointer hpointer (schemaName?_ne_none hreference)).resolve_left And.left
    obtain rfl := Option.some.inj (hreference.symm.trans hq)
    have hentry' := hactive hentry
    rcases hcases with ⟨hname, rfl⟩ | ⟨hname, -⟩
    · obtain rfl : ρ name = name' := by simpa [hentry'] using hname
      simp [callStatement, stmtsRenamed, Stmt.renamed, Expr.renamed, exprsRenamed, htarget]
    · simp [hentry'] at hname
  | withdrawn hpointer hreference hentry =>
    intro stmts' _ he
    obtain ⟨q, name', hq, hcases⟩ :=
      (he.of_pointer hpointer (schemaName?_ne_none hreference)).resolve_left And.left
    obtain rfl := Option.some.inj (hreference.symm.trans hq)
    rcases hcases with ⟨hname, -⟩ | ⟨-, rfl⟩
    · obtain ⟨other, hother⟩ := hactive' hname
      simp [hentry] at hother
    · rfl
  | noElement hpointer hshape hitems =>
    intro stmts' _ he
    rw [he.of_whole hpointer (.inr (.inr ⟨hshape, hitems⟩)), stmtsRenamed]
  | array hpointer hshape hitems _ ih =>
    intro stmts' htarget he
    obtain ⟨body', hbody', rfl⟩ := (he.of_array hpointer hshape hitems).resolve_left And.left
    rw [stmtsRenamed_arrayBody htarget, stmtsRenamed_guardedBody rfl, ih rfl hbody']
  | object hpointer hshape hlength _ ih =>
    intro stmts' htarget he
    obtain ⟨bodies', hlength', hbodies', rfl⟩ :=
      (he.of_object hpointer hshape).resolve_left And.left
    have hproperty : ∀ n, (Expr.property _ n).renamed ρ = .property _ n := fun n => by
      rw [Expr.renamed, htarget]
    obtain rfl := eq_map_renamed hlength hlength' fun x body body' hx hx' =>
      ih _ hx (hproperty x.1) (hbodies' _ hx')
    simp [stmtsRenamed_flatMap, List.zip_map_right, List.flatMap_map,
      stmtsRenamed_propertyBody htarget]
  | fixed hpointer hshape =>
    intro stmts' _ he
    rw [he.of_whole hpointer (hshape.imp id .inl), stmtsRenamed]
  | leaf hpointer hshape hitems =>
    intro stmts' htarget he
    obtain ⟨harray, hobject⟩ := shape_ne_of_isContainer hshape
    rw [(he.of_leaf hpointer hitems harray hobject).resolve_left And.left,
      stmtsRenamed_revive htarget hbuiltin]
  | composition hpointer hshape hitems happlies hlength _ ih =>
    intro stmts' htarget he
    obtain ⟨bodies', hlength', hbodies', rfl⟩ :=
      (he.of_composition hpointer hshape happlies hitems).resolve_left And.left
    obtain rfl := eq_map_renamed hlength hlength' fun x body body' hx hx' =>
      ih _ hx htarget (hbodies' _ hx')
    simp [stmtsRenamed_flatMap, List.zip_map_right, List.flatMap_map]
  | union hpointer hshape hitems happlies =>
    intro stmts' _ he
    rw [he.of_union hpointer hshape happlies hitems, stmtsRenamed]

/-- The functions of one session are those of another one under other names. -/
structure Renames (ρ : String → String) (σ σ' : Session) : Prop where
  builtin : ρ "BigInt" = "BigInt"
  active : ∀ {p name}, σ.registry.status? p .value fileId = some (.active name) →
    σ'.registry.status? p .value fileId = some (.active (ρ name))
  injective : Set.InjOn ρ {name | ∃ p, σ.registry.status? p .value fileId = some (.active name)}
  function?_eq : ∀ p, function? σ' p = (function? σ p).map fun f => (f.1, stmtsRenamed ρ f.2)

section

variable (h : Reordered api api') (hσ : Finished options api σ) (hσ' : Finished options api' σ')
include h hσ hσ'

/-- Every name of one session has a counterpart in the other one. -/
lemma exists_renaming : ∃ ρ : String → String, ρ "BigInt" = "BigInt"
    ∧ ∀ p name, σ.registry.status? p .value fileId = some (.active name) →
      σ'.registry.status? p .value fileId = some (.active (ρ name)) := by
  have hname : ∀ name, ∃ name', (name = "BigInt" → name' = "BigInt")
      ∧ ∀ p, σ.registry.status? p .value fileId = some (.active name) →
        σ'.registry.status? p .value fileId = some (.active name') := by
    intro name
    by_cases hactive : ∃ p, σ.registry.status? p .value fileId = some (.active name)
    · obtain ⟨p, hp⟩ := hactive
      obtain ⟨name', hname'⟩ := h.exists_active hσ hσ' hp
      refine ⟨name', fun hbuiltin => ?_, fun q hq => ?_⟩
      · exact absurd (hbuiltin ▸ hσ.distinct.unreserved hp) (by decide +kernel)
      · obtain rfl := hσ.distinct.pointer_eq hp hq rfl
        exact hname'
    · exact ⟨name, id, fun p hp => absurd ⟨p, hp⟩ hactive⟩
  choose ρ hρ using hname
  exact ⟨ρ, (hρ "BigInt").1 rfl, fun p name => (hρ name).2 p⟩

/-- A function has the same statements in the other session, but for the names. -/
lemma function?_eq_map (hbuiltin : ρ "BigInt" = "BigInt")
    (hactive : ∀ p name, σ.registry.status? p .value fileId = some (.active name) →
      σ'.registry.status? p .value fileId = some (.active (ρ name))) :
    function? σ' p = (function? σ p).map fun f => (f.1, stmtsRenamed ρ f.2) := by
  by_cases hp : ∃ name, σ.registry.status? p .value fileId = some (.active name)
  · obtain ⟨name, hp⟩ := hp
    obtain ⟨f, s, body, hf, hreference, hs, hemits, -, hfunction⟩ := hσ.active hp
    obtain ⟨body', hemits', -, hfunction'⟩ := hσ'.exists_emits (h.belongsTo hf) hreference
      (h.schema?_eq.trans hs) (hactive p name hp)
    obtain rfl := hemits.renamed_eq hbuiltin (hactive _ _) (h.symm.exists_active hσ' hσ) rfl hemits'
    rw [hfunction, hfunction', Option.map_some, stmtsRenamed_returning,
      stmtsRenamed_guardedBody rfl]
  · have hnone : ∀ {σ : Session}, (¬ ∃ name, σ.registry.status? p .value fileId
        = some (.active name)) → function? σ p = none := by
      intro σ hp
      cases hentry : σ.registry.status? p .value fileId with
      | none => simp [function?, hentry]
      | some e =>
        cases e with
        | active name => exact absurd ⟨name, hentry⟩ hp
        | suppressed name => simp [function?, hentry]
    rw [hnone hp, hnone fun ⟨name, hname⟩ => hp (h.symm.exists_active hσ' hσ hname),
      Option.map_none]

end

/-- A model whose operations have different ids, and the same model with its operations in another
order: if no schema is too deep in either run, a component has a helper in both runs or in neither,
an operation has a transformer in both or in neither, and their statements are the same but for the
names. -/
theorem renames_of_session {config : Config} {p : Pipeline}
    (hids : (api.operations.map Operation.id).Nodup) (hnames : DefaultNames options)
    (hp : Pipeline.ofConfig config = .ok p) (hmem : .transformers options ∈ config.generators)
    (horder : Reordered api api') (hσ : p.session ⟨api, config⟩ = .ok σ)
    (hσ' : p.session ⟨api', config⟩ = .ok σ') (hwhole : ¬ Truncated σ.diagnostics)
    (hwhole' : ¬ Truncated σ'.diagnostics) : ∃ ρ, Renames ρ σ σ' := by
  have hids' : (api'.operations.map Operation.id).Nodup :=
    (horder.perm.map Operation.id).nodup_iff.mpr hids
  have hresponse := hnames.plain.responseName
  have hfinished : Finished options api σ :=
    (complete_of_session hresponse hids hp hmem hσ).finished (unambiguous hnames.plain hids) hwhole
  have hfinished' : Finished options api' σ' :=
    (complete_of_session hresponse hids' hp hmem hσ').finished (unambiguous hnames.plain hids')
      hwhole'
  obtain ⟨ρ, hbuiltin, hactive⟩ := exists_renaming horder hfinished hfinished'
  refine ⟨ρ, hbuiltin, hactive _ _, ?_, fun q =>
    function?_eq_map horder hfinished hfinished' hbuiltin hactive⟩
  rintro name ⟨q, hq⟩ other ⟨q', hq'⟩ heq
  have hnext := hactive q' other hq'
  rw [← heq] at hnext
  obtain rfl := hfinished'.distinct.pointer_eq (hactive q name hq) hnext rfl
  simpa [hq] using hq'

/-! ### Two orders -/

namespace OrderModel

/-- A pipeline with default options. -/
def config : Config := { generators := [.transformers {}] }

/-- Values with a moment under a name. -/
def at_ (name : String) : Schema where
  shape := some .object
  properties := [(name, { shape := some .string, facets := { format := some "date-time" } })]

/-- Two operations whose transformers would have the same name. -/
def first : Operation := answering "/a" "A" (at_ "t")

def second : Operation := answering "/b" "a" (at_ "u")

/-- How many warnings the session of some operations raises, and the name that it gives to the
transformer of the first one above. -/
def firstName? (operations : List Operation) : Option (Nat × Option Output.Entry) :=
  (Pipeline.session [.types {}, .transformers {}]
    ⟨modelOf [] operations, config⟩).toOption.map fun σ => (σ.diagnostics.length,
      σ.registry.status? "#/ir/AResponseTransformer" .value fileId)

lemma firstName?_first :
    firstName? [first, second] = some (0, some (.active "aResponseTransformer")) := by
  decide +kernel

lemma firstName?_second :
    firstName? [second, first] = some (0, some (.active "aResponseTransformer2")) := by
  decide +kernel

theorem renames_of_session_similarIds : ∃ p σ σ' ρ, Pipeline.ofConfig config = .ok p
    ∧ p.session ⟨modelOf [] [first, second], config⟩ = .ok σ
    ∧ p.session ⟨modelOf [] [second, first], config⟩ = .ok σ' ∧ Renames ρ σ σ'
    ∧ ρ "aResponseTransformer" = "aResponseTransformer2" := by
  have hconfig : Pipeline.ofConfig config = .ok [.types {}, .transformers {}] := rfl
  obtain ⟨σ, hσ, hfacts⟩ := Option.map_eq_some_iff.mp firstName?_first
  obtain ⟨σ', hσ', hfacts'⟩ := Option.map_eq_some_iff.mp firstName?_second
  obtain ⟨hclean, hname⟩ := Prod.mk.inj hfacts
  obtain ⟨hclean', hname'⟩ := Prod.mk.inj hfacts'
  have hsession := Generation.eq_ok_of_toOption hσ
  have hsession' := Generation.eq_ok_of_toOption hσ'
  have hids : ((modelOf [] [first, second]).operations.map Operation.id).Nodup := by decide
  have horder : Reordered (modelOf [] [first, second]) (modelOf [] [second, first]) :=
    ⟨rfl, .swap first second []⟩
  obtain ⟨ρ, hρ⟩ := renames_of_session hids ⟨rfl, rfl⟩ hconfig (List.mem_singleton_self _) horder
    hsession hsession' (not_truncated (List.length_eq_zero_iff.mp hclean))
    (not_truncated (List.length_eq_zero_iff.mp hclean'))
  refine ⟨_, σ, σ', ρ, hconfig, hsession, hsession', hρ, ?_⟩
  simpa [hname'] using (hρ.active hname).symm

/-- Lists of lists, so many levels deep, of a component. -/
def nested : Nat → Schema
  | 0 => .reference "#/components/schemas/L"
  | levels + 1 => { shape := some .array, items := [nested levels] }

def leaf : Entries String Schema := [("L", at_ "t")]

/-- The component stands deeper than statements are made for. -/
def deep : Operation := answering "/a" "a" (nested maxDepth)

def shallow : Operation := answering "/b" "b" (nested 0)

/-- Whether a session declares a function under a name. -/
def declares (σ : Session) (name : String) : Bool :=
  ((σ.files.get? fileId).bind fun file => file.nodes.findSome? (Stmt.function? name)).isSome

/-- Whether the session of a model declares a helper for the component and a transformer for the
second operation. -/
def sessionDeclares? (api : Api) : Option (Bool × Bool) :=
  (Pipeline.session [.types {}, .transformers {}] ⟨api, config⟩).toOption.map fun σ =>
    (declares σ "lSchemaResponseTransformer", declares σ "bResponseTransformer")

lemma exists_session {api : Api} {b c : Bool} (h : sessionDeclares? api = some (b, c)) : ∃ σ,
    Pipeline.session [.types {}, .transformers {}] ⟨api, config⟩ = .ok σ
      ∧ declares σ "lSchemaResponseTransformer" = b ∧ declares σ "bResponseTransformer" = c := by
  obtain ⟨σ, hσ, hb⟩ := Option.map_eq_some_iff.mp h
  exact ⟨σ, Generation.eq_ok_of_toOption hσ, Prod.mk.inj hb⟩

lemma sessionDeclares?_deep :
    sessionDeclares? (modelOf leaf [deep, shallow]) = some (false, false) := by
  decide +kernel

lemma sessionDeclares?_shallow :
    sessionDeclares? (modelOf leaf [shallow, deep]) = some (true, true) := by
  decide +kernel

/-- A helper that is asked for first where schemas are too deep is withdrawn for all operations that
come later, also for one whose response is the component itself. -/
theorem exists_order_matters : ∃ p σ σ', Pipeline.ofConfig config = .ok p
    ∧ ((modelOf leaf [deep, shallow]).operations.map Operation.id).Nodup
    ∧ p.session ⟨modelOf leaf [deep, shallow], config⟩ = .ok σ
    ∧ p.session ⟨modelOf leaf [shallow, deep], config⟩ = .ok σ'
    ∧ declares σ "lSchemaResponseTransformer" = false
    ∧ declares σ "bResponseTransformer" = false
    ∧ declares σ' "lSchemaResponseTransformer" = true
    ∧ declares σ' "bResponseTransformer" = true := by
  have hconfig : Pipeline.ofConfig config = .ok [.types {}, .transformers {}] := rfl
  obtain ⟨σ, hσ, hhelper, htransformer⟩ := exists_session sessionDeclares?_deep
  obtain ⟨σ', hσ', hhelper', htransformer'⟩ := exists_session sessionDeclares?_shallow
  exact ⟨_, σ, σ', hconfig, by decide, hσ, hσ', hhelper, htransformer, hhelper', htransformer'⟩

end OrderModel

end OpenApiTypes.Transformers
