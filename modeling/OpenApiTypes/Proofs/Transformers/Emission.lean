/-
The statements that a schema may be given.

* `Transformers.Function`: a function of the file of transformers: the helper of a component or the
  transformer of an operation;
* `Transformers.Emits`: the statements that a schema may be given under the names in a registry;
* `Transformers.Emits.mono`: they stay possible when names are added;
* `Transformers.Emits.callees`: such statements call nothing but functions whose names are given.
-/
import OpenApiTypes.Proofs.Output.Registry
import OpenApiTypes.Proofs.TypeScript.Mentions
import OpenApiTypes.Transformers.Declarations

namespace OpenApiTypes.Transformers

open OpenApiTypes.Model
open OpenApiTypes.Output (Registry)
open OpenApiTypes.TypeScript (Expr Stmt isPresent stmtsCallees)
open OpenApiTypes.Config (TransformersOptions)

/-! ### Names -/

lemma nameFor_of_renderName [Template.Engine] {generator template name text : String}
    (h : Config.renderName generator template name = .ok text) :
    Template.nameFor template name = .ok text := by
  rw [Config.renderName] at h
  split at h
  · rename_i hname
    rwa [← Except.ok.inj h]
  · simp at h

/-! ### Functions -/

/-- A function of the file of transformers. -/
inductive Function where
  /-- The helper of the component that a pointer leads to. -/
  | helper (pointer : String)
  /-- The transformer of an operation. -/
  | response (op : Operation)

namespace Function

/-- The reference under which a function is known. -/
def reference? [Template.Engine] (options : TransformersOptions) : Function → Option String
  | helper pointer => do
    let component ← Pointer.schemaName? pointer
    let name ← (Config.renderName generatorName options.schemaName component).toOption
    some (helperReference name)
  | response op => do
    let name ← (Config.renderName generatorName options.responseName op.id).toOption
    some (transformerReference name)

/-- The schema whose values a function restores. -/
def schema? (api : Api) : Function → Option Schema
  | helper pointer => api.catalog.find? pointer
  | response op => responseSchema? op

/-- Operations have to be those of the model. -/
def BelongsTo (api : Api) : Function → Prop
  | helper _ => True
  | response op => op ∈ api.operations

end Function

/-! ### Statements around statements -/

/-- The statements for a value behind a test that it is present, if it may be null. -/
def guardedBody (s : Schema) (target : Expr) (body : List Stmt) : List Stmt :=
  if body.isEmpty || !s.admitsNull then body else [.cond (isPresent target) body]

/-- The statement that restores the elements of an array. -/
def arrayBody (target : Expr) (body : List Stmt) : List Stmt :=
  if body.isEmpty then []
  else [.expr (.assign target (.call (.property target "map") [functionOf "item" (itemBody body)]))]

/-- The statements for a property of a schema. -/
def propertyBody (s : Schema) (target : Expr) (property : String × Schema) (body : List Stmt) :
    List Stmt :=
  if body.isEmpty then []
  else if s.required.contains property.1 && !property.2.admitsNull then body
  else [.cond (isPresent (.property target property.1)) body]

@[simp] lemma guardedBody_eq_nil_iff {s : Schema} {target : Expr} {body : List Stmt} :
    guardedBody s target body = [] ↔ body = [] := by
  unfold guardedBody
  split <;> simp_all

@[simp] lemma arrayBody_eq_nil_iff {target : Expr} {body : List Stmt} :
    arrayBody target body = [] ↔ body = [] := by
  unfold arrayBody
  split <;> simp_all

@[simp] lemma propertyBody_eq_nil_iff {s : Schema} {target : Expr} {property : String × Schema}
    {body : List Stmt} : propertyBody s target property body = [] ↔ body = [] := by
  unfold propertyBody
  split
  · simp_all
  split <;> simp_all

@[simp] lemma returning_eq_nil_iff {value : Expr} {body : List Stmt} :
    returning value body = [] ↔ body = [] := by
  unfold returning
  split
  · rename_i last hlast
    have hbody : body ≠ [] := by
      rintro rfl
      simp at hlast
    split <;> simp [hbody]
  · simp_all

/-! ### Statements for a schema -/

/-- Whether a schema says by itself how its values are made up. -/
def isContainer (s : Schema) : Bool :=
  match s.shape with
  | some .array | some .object | some .tuple | some .enum => true
  | _ => false

lemma shape_ne_of_isContainer {s : Schema} (h : isContainer s = false) :
    s.shape ≠ some .array ∧ s.shape ≠ some .object := by
  constructor <;> intro hs <;> simp [isContainer, hs] at h

/-- Whether the items of a composition are all applied to its value. -/
def appliesItems (s : Schema) : Bool :=
  s.items.length == 1 || s.operator == .and || isNullablePair s.items

/-- The statements that a schema may be given for the value at a target, when the names of
functions are those of a registry. `lossy` tells whether statements may have been left out because
schemas nest too deep. -/
inductive Emits (options : TransformersOptions) (lossy : Prop) (r : Registry) :
    Schema → Expr → List Stmt → Prop where
  | lost {s : Schema} {target : Expr} (h : lossy) : Emits options lossy r s target []
  | foreign {s : Schema} {target : Expr} {pointer : String} (hpointer : s.pointer = some pointer)
      (hforeign : Pointer.schemaName? pointer = none) : Emits options lossy r s target []
  | call {s : Schema} {target : Expr} {pointer p name : String}
      (hpointer : s.pointer = some pointer)
      (hreference : (Function.helper pointer).reference? options = some p)
      (hentry : r.status? p .value fileId = some (.active name)) :
      Emits options lossy r s target [callStatement name target]
  | withdrawn {s : Schema} {target : Expr} {pointer p name : String}
      (hpointer : s.pointer = some pointer)
      (hreference : (Function.helper pointer).reference? options = some p)
      (hentry : r.status? p .value fileId = some (.suppressed name)) :
      Emits options lossy r s target []
  | noElement {s : Schema} {target : Expr} (hpointer : s.pointer = none)
      (hshape : s.shape = some .array) (hitems : s.items = []) : Emits options lossy r s target []
  | array {s element : Schema} {target : Expr} {rest : List Schema} {body : List Stmt}
      (hpointer : s.pointer = none) (hshape : s.shape = some .array)
      (hitems : s.items = element :: rest) (hbody : Emits options lossy r element item body) :
      Emits options lossy r s target (arrayBody target (guardedBody element item body))
  | object {s : Schema} {target : Expr} {bodies : List (List Stmt)} (hpointer : s.pointer = none)
      (hshape : s.shape = some .object) (hlength : bodies.length = s.properties.length)
      (hbodies : ∀ x ∈ s.properties.zip bodies,
        Emits options lossy r x.1.2 (.property target x.1.1) x.2) :
      Emits options lossy r s target
        ((s.properties.zip bodies).flatMap fun x => propertyBody s target x.1 x.2)
  | fixed {s : Schema} {target : Expr} (hpointer : s.pointer = none)
      (hshape : s.shape = some .tuple ∨ s.shape = some .enum) : Emits options lossy r s target []
  | leaf {s : Schema} {target : Expr} (hpointer : s.pointer = none)
      (hshape : isContainer s = false) (hitems : s.items = []) :
      Emits options lossy r s target (revive options s target)
  | composition {s : Schema} {target : Expr} {bodies : List (List Stmt)}
      (hpointer : s.pointer = none) (hshape : isContainer s = false) (hitems : s.items ≠ [])
      (happlies : appliesItems s = true) (hlength : bodies.length = s.items.length)
      (hbodies : ∀ x ∈ s.items.zip bodies, Emits options lossy r x.1 target x.2) :
      Emits options lossy r s target ((s.items.zip bodies).flatMap Prod.snd)
  | union {s : Schema} {target : Expr} (hpointer : s.pointer = none)
      (hshape : isContainer s = false) (hitems : s.items ≠ [])
      (happlies : appliesItems s = false) : Emits options lossy r s target []

namespace Emits

variable {options : TransformersOptions} {lossy lossy' : Prop} {r r' : Registry} {s : Schema}
  {target : Expr} {stmts : List Stmt}

/-- Statements stay possible when names are added. -/
lemma mono (h : Emits options lossy r s target stmts) (hl : lossy → lossy') (hr : r.Extends r') :
    Emits options lossy' r' s target stmts := by
  induction h with
  | lost h => exact .lost (hl h)
  | foreign hpointer hforeign => exact .foreign hpointer hforeign
  | call hpointer hreference hentry => exact .call hpointer hreference (hr hentry)
  | withdrawn hpointer hreference hentry => exact .withdrawn hpointer hreference (hr hentry)
  | noElement hpointer hshape hitems => exact .noElement hpointer hshape hitems
  | array hpointer hshape hitems _ ih => exact .array hpointer hshape hitems ih
  | object hpointer hshape hlength _ ih => exact .object hpointer hshape hlength ih
  | fixed hpointer hshape => exact .fixed hpointer hshape
  | leaf hpointer hshape hitems => exact .leaf hpointer hshape hitems
  | composition hpointer hshape hitems happlies hlength _ ih =>
    exact .composition hpointer hshape hitems happlies hlength ih
  | union hpointer hshape hitems happlies => exact .union hpointer hshape hitems happlies

/-- Statements do not return. -/
lemma not_isReturn (h : Emits options lossy r s target stmts) :
    ∀ stmt ∈ stmts, stmt.isReturn = false := by
  intro stmt hstmt
  induction h with
  | lost | foreign | withdrawn | noElement | fixed | union => simp at hstmt
  | call => simp_all [callStatement, Stmt.isReturn]
  | array =>
    unfold arrayBody at hstmt
    split at hstmt <;> simp_all [Stmt.isReturn]
  | object _ _ _ _ ih =>
    obtain ⟨x, hx, hstmt⟩ := List.mem_flatMap.mp hstmt
    unfold propertyBody at hstmt
    split_ifs at hstmt
    · simp at hstmt
    · exact ih x hx hstmt
    · simp_all [Stmt.isReturn]
  | leaf =>
    unfold revive reviveDate? reviveBigint? at hstmt
    simp only at hstmt
    split_ifs at hstmt <;> simp at hstmt <;> simp [hstmt, Stmt.isReturn]
  | composition _ _ _ _ _ _ ih =>
    obtain ⟨x, hx, hstmt⟩ := List.mem_flatMap.mp hstmt
    exact ih x hx hstmt

end Emits

/-! ### Called functions -/

section

variable {n : String} {target : Expr} {body : List Stmt}

lemma mem_callees_isPresent (h : n ∈ (isPresent target).callees) : n ∈ target.callees := by
  simpa [isPresent, Expr.callees] using h

lemma mem_callees_guardedBody {s : Schema} (h : n ∈ stmtsCallees (guardedBody s target body)) :
    n ∈ target.callees ∨ n ∈ stmtsCallees body := by
  unfold guardedBody at h
  split at h
  · exact .inr h
  · rw [stmtsCallees, stmtsCallees, Stmt.callees, List.append_nil] at h
    exact (List.mem_append.mp h).imp mem_callees_isPresent id

lemma mem_callees_itemBody (h : n ∈ stmtsCallees (itemBody body)) : n ∈ stmtsCallees body := by
  unfold itemBody at h
  split at h
  · simpa [stmtsCallees, Stmt.callees, Expr.callees] using h
  split at h
  · exact h
  · simpa [stmtsCallees, Stmt.callees, Expr.callees, item] using h

lemma mem_callees_arrayBody (h : n ∈ stmtsCallees (arrayBody target body)) :
    n ∈ target.callees ∨ n ∈ stmtsCallees body := by
  unfold arrayBody at h
  split at h
  · simp [stmtsCallees] at h
  · simp only [stmtsCallees, Stmt.callees, Expr.callees, Expr.name?, functionOf,
      TypeScript.exprsCallees, Option.toList_none, List.nil_append, List.append_nil,
      List.mem_append] at h
    rcases h with h | h | h
    · exact .inl h
    · exact .inl h
    · exact .inr (mem_callees_itemBody h)

lemma mem_callees_propertyBody {s : Schema} {property : String × Schema}
    (h : n ∈ stmtsCallees (propertyBody s target property body)) :
    n ∈ target.callees ∨ n ∈ stmtsCallees body := by
  unfold propertyBody at h
  split at h
  · simp [stmtsCallees] at h
  split at h
  · exact .inr h
  · rw [stmtsCallees, stmtsCallees, Stmt.callees, List.append_nil] at h
    exact (List.mem_append.mp h).imp mem_callees_isPresent id

lemma mem_callees_returning (h : n ∈ stmtsCallees (returning data body)) :
    n ∈ stmtsCallees body := by
  unfold returning at h
  split at h
  · split at h
    · exact h
    · simpa [stmtsCallees, Stmt.callees, Expr.callees, data] using h
  · simp [stmtsCallees] at h

lemma mem_callees_revive {options : TransformersOptions} {s : Schema}
    (h : n ∈ stmtsCallees (revive options s target)) : n ∈ target.callees ∨ n = "BigInt" := by
  unfold revive reviveDate? reviveBigint? at h
  simp only at h
  split_ifs at h <;>
    simp [stmtsCallees, Stmt.callees, Expr.callees, Expr.name?, TypeScript.exprsCallees] at h <;>
    tauto

end

/-- Statements call nothing but functions whose names are given, unless their target does. -/
lemma Emits.callees {options : TransformersOptions} {lossy : Prop} {r : Registry} {s : Schema}
    {target : Expr} {stmts : List Stmt} (h : Emits options lossy r s target stmts) :
    ∀ n ∈ stmtsCallees stmts, n ∈ target.callees ∨ n = "BigInt"
      ∨ ∃ p, r.status? p .value fileId = some (.active n) := by
  intro n hn
  induction h with
  | lost | foreign | withdrawn | noElement | fixed | union => simp [stmtsCallees] at hn
  | @call _ target _ p name _ _ hentry =>
    simp only [callStatement, stmtsCallees, Stmt.callees, Expr.callees, Expr.name?,
      TypeScript.exprsCallees, Option.toList_some, List.append_nil, List.mem_append,
      List.mem_singleton] at hn
    rcases hn with hn | rfl | hn
    · exact .inl hn
    · exact .inr (.inr ⟨p, hentry⟩)
    · exact .inl hn
  | array _ _ _ _ ih =>
    rcases mem_callees_arrayBody hn with hn | hn
    · exact .inl hn
    rcases mem_callees_guardedBody hn with hn | hn
    · simp [item, Expr.callees] at hn
    · exact .inr ((ih hn).resolve_left (by simp [item, Expr.callees]))
  | object _ _ _ _ ih =>
    rw [TypeScript.stmtsCallees_eq, List.flatMap_assoc] at hn
    obtain ⟨x, hx, hn⟩ := List.mem_flatMap.mp hn
    rw [← TypeScript.stmtsCallees_eq] at hn
    rcases mem_callees_propertyBody hn with hn | hn
    · exact .inl hn
    · simpa [Expr.callees] using ih x hx hn
  | leaf => exact (mem_callees_revive hn).imp id .inl
  | composition _ _ _ _ _ _ ih =>
    rw [TypeScript.stmtsCallees_eq, List.flatMap_assoc] at hn
    obtain ⟨x, hx, hn⟩ := List.mem_flatMap.mp hn
    exact ih x hx (by rwa [TypeScript.stmtsCallees_eq])

end OpenApiTypes.Transformers
