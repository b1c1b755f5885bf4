/-
Statements that restore the value at a place.

* `Transformers.Holds`: a place, for which an expression stands, holds a tree;
* `Transformers.Restoring`: statements turn the tree at a place into another one and change nothing
  else;
* `Transformers.Restoring.assign`, `Transformers.Restoring.append`,
  `Transformers.Restoring.guarded`, `Transformers.Restoring.property`: assignments, statements one
  after the other, and statements behind a test;
* `Transformers.Restoring.function`, `Transformers.Restoring.callback`: functions of such
  statements.
-/
import OpenApiTypes.Proofs.Transformers.Linking

namespace OpenApiTypes.Transformers

open OpenApiTypes.Model
open OpenApiTypes.Output (Registry)
open OpenApiTypes.TypeScript
open OpenApiTypes.Config (TransformersOptions)

variable {options : TransformersOptions} {numberText : Number → String} {api : Api} {lossy : Prop}
  {r : Registry} {g : Nat → Globals} {s : Schema} {v : Json} {t w : Tree} {target e : Expr}
  {stmts body : List Stmt} {σ σ' : State} {place : TypeScript.Place} {value value' : Value}
  {F cells : Set Nat} {name : String}

/-! ### Places that hold trees -/

/-- Generated functions have no variables but their parameters. -/
def Enclosed (σ : State) : Prop := ∀ name, σ.bindings.has name = true → name ∈ ["data", "item"]

lemma Enclosed.enter (h : Enclosed σ) (hname : name ∈ ["data", "item"]) :
    Enclosed (σ.enter name value) := by
  intro other hother
  by_cases heq : other = name
  · exact heq ▸ hname
  · refine h other ?_
    simpa [State.enter, Entries.has, Entries.get?_cons, heq] using hother

lemma Enclosed.write (h : Enclosed σ) (hread : σ.read? place = some value) :
    Enclosed (σ.write place value') := by
  cases place with
  | named name =>
    intro other hother
    by_cases heq : other = name
    · refine h other ?_
      have hbound : σ.bindings.get? name = some value := hread
      rw [heq, Entries.has, hbound]
      rfl
    · refine h other ?_
      rwa [State.write, Entries.has, Entries.get?_put_of_ne _ heq] at hother
  | member address name => rwa [Enclosed, State.bindings_write_member]

lemma Enclosed.isBuiltin (h : Enclosed σ) (hlinked : Linked options numberText api lossy r g)
    (m : Nat) (hname : name ∈ ["undefined", "Date", "BigInt"]) :
    (g m).isBuiltin σ name = true := by
  have hdeclared := hlinked.not_declared m name hname
  have hbound : σ.bindings.has name = false := by
    by_contra hhas
    have := h name (by simpa using hhas)
    simp at hname this
    rcases hname with rfl | rfl | rfl <;> simp at this
  simp [Globals.isBuiltin, hbound, hdeclared]

/-- A place, for which an expression stands, holds the representation of a tree. The expression
finds the place by other cells than those of the tree and that of the place itself. -/
structure Holds (σ : State) (target : Expr) (place : TypeScript.Place) (value : Value) (t : Tree)
    (F : Set Nat) : Prop where
  enclosed : Enclosed σ
  denotes : ∃ path, Denotes σ target place path ∧ ∀ b ∈ path, b ∉ F ∧ b ∉ place.cells
  outside : ∀ b ∈ place.cells, b ∉ F
  read : σ.read? place = some value
  rep : Rep σ.heap value t F

namespace Holds

lemma evalExpr_eq {g : Globals} (h : Holds σ target place value t F) :
    evalExpr g target σ = some (value, σ) := by
  obtain ⟨path, hdenotes, -⟩ := h.denotes
  exact hdenotes.evalExpr_eq h.read

lemma write_eq (h : Holds σ target place value t F) : σ.write place value = σ :=
  State.write_of_read? h.read h.rep.ne_missing

/-- The parameter of a function holds its argument. -/
lemma enter (h : Enclosed σ) (hname : name ∈ ["data", "item"]) (hrep : Rep σ.heap value t F) :
    Holds (σ.enter name value) (.identifier name) (.named name) value t F where
  enclosed := h.enter hname
  denotes := ⟨∅, .named name, by simp⟩
  outside := by simp
  read := by simp [State.read?, State.enter, Entries.get?]
  rep := hrep

end Holds

/-! ### Restoring statements -/

/-- Statements turn the tree at a place into another one and change nothing else. They do so if
calls may nest deep enough. -/
def Restoring (g : Nat → Globals) (stmts : List Stmt) (place : TypeScript.Place) (F : Set Nat)
    (w : Tree) (σ : State) : Prop :=
  ∃ value cells σ', Keeps F (σ.write place value) σ' ∧ Rep σ'.heap value w cells
    ∧ (∀ b ∈ cells, b ∈ F ∨ σ.heap.length ≤ b)
    ∧ ∀ᶠ m in Filter.atTop, evalStmts (g m) stmts σ = some (none, σ')

namespace Restoring

/-- Statements that do nothing restore what is as it should be. -/
lemma of_same (h : Holds σ target place value w F)
    (heval : ∀ m, evalStmts (g m) stmts σ = some (none, σ)) : Restoring g stmts place F w σ :=
  ⟨value, F, σ, by rw [h.write_eq]; exact .refl _ _, h.rep, fun _ hb => .inl hb,
    .of_forall heval⟩

/-- An assignment of an expression that gives the other tree. -/
lemma assign (h : Holds σ target place value t F) (hkeeps : Keeps F σ σ')
    (hrep : Rep σ'.heap value' w cells) (hnew : ∀ b ∈ cells, b ∈ F ∨ σ.heap.length ≤ b)
    (heval : ∀ᶠ m in Filter.atTop, evalExpr (g m) e σ = some (value', σ')) :
    Restoring g [.expr (.assign target e)] place F w σ := by
  obtain ⟨path, hdenotes, -⟩ := h.denotes
  refine ⟨value', cells, σ'.write place value', hkeeps.write h.outside h.read, ?_, hnew, ?_⟩
  · refine hrep.of_cells fun {b c} hb hc => ?_
    rw [State.heap_write fun hplace => ?_, hc]
    rcases hnew b hb with hF | hlength
    · exact h.outside b hplace hF
    · have := State.lt_of_read? h.read hplace
      omega
  · filter_upwards [heval] with m hm
    exact evalStmts_expr (hdenotes.evalExpr_assign h.read h.rep.ne_missing hm hkeeps h.outside)

lemma eq_null_of_rep {h : Heap} (hrep : Rep h value t F) (hnull : value.isNullish = true) :
    t = .scalar .null := by
  cases hrep with
  | scalar x => cases x <;> simp [Value.isNullish] at hnull ⊢
  | array | record => simp [Value.isNullish] at hnull

/-- Statements behind a test that the value is present. -/
lemma cond (hlinked : Linked options numberText api lossy r g)
    (h : Holds σ target place value t F) (hnull : t = .scalar .null → w = .scalar .null)
    (hbody : t ≠ .scalar .null → Restoring g body place F w σ) :
    Restoring g [.cond (isPresent target) body] place F w σ := by
  have hundefined := fun m => h.enclosed.isBuiltin hlinked m (show "undefined" ∈ _ by simp)
  by_cases ht : t = .scalar .null
  · subst ht
    rw [hnull rfl]
    obtain ⟨rfl, -⟩ := Rep.scalar_iff.mp h.rep
    exact of_same h fun m => evalStmts_missing (hundefined m) h.evalExpr_eq rfl
  · obtain ⟨value', cells, σ', hkeeps, hrep, hnew, heval⟩ := hbody ht
    have hpresent : value.isNullish = false := by
      by_contra hnullish
      exact ht (eq_null_of_rep h.rep (by simpa using hnullish))
    refine ⟨value', cells, σ', hkeeps, hrep, hnew, ?_⟩
    filter_upwards [heval] with m hm
    exact evalStmts_present (hundefined m) h.evalExpr_eq hpresent hm

/-- Statements behind a test, unless there are none or the value cannot be null. -/
lemma guard (hlinked : Linked options numberText api lossy r g)
    (h : Holds σ target place value t F) (hnull : t = .scalar .null → w = .scalar .null) {c : Bool}
    (hc : c = true → body = [] ∨ s.admitsNull = false)
    (hbody : (t = .scalar .null → s.admitsNull = false) → Restoring g body place F w σ) :
    Restoring g (if c then body else [.cond (isPresent target) body]) place F w σ := by
  split
  · rename_i htrue
    by_cases ht : t = .scalar .null ∧ s.admitsNull = true
    · obtain rfl : body = [] := (hc htrue).resolve_right (by simp [ht.2])
      rw [hnull ht.1]
      rw [ht.1] at h
      exact of_same h fun m => by simp [evalStmts]
    · exact hbody fun ht' => by simpa using fun hadmits => ht ⟨ht', hadmits⟩
  · exact cond hlinked h hnull fun ht => hbody fun ht' => absurd ht' ht

lemma guarded (hlinked : Linked options numberText api lossy r g)
    (h : Holds σ target place value t F) (hnull : t = .scalar .null → w = .scalar .null)
    (hbody : (t = .scalar .null → s.admitsNull = false) → Restoring g body place F w σ) :
    Restoring g (guardedBody s target body) place F w σ :=
  guard hlinked h hnull (by simp) hbody

lemma property (hlinked : Linked options numberText api lossy r g) {p : Schema}
    (h : Holds σ (.property target name) place value t F)
    (hnull : t = .scalar .null → w = .scalar .null)
    (hbody : (t = .scalar .null → p.admitsNull = false) → Restoring g body place F w σ) :
    Restoring g (propertyBody s target (name, p) body) place F w σ := by
  have heq : propertyBody s target (name, p) body
      = if body.isEmpty || s.required.contains name && !p.admitsNull then body
        else [.cond (isPresent (.property target name)) body] := by
    unfold propertyBody
    by_cases hempty : body = []
    · simp [hempty]
    · simp [hempty]
  rw [heq]
  refine guard hlinked h hnull (fun htrue => ?_) hbody
  simp only [Bool.or_eq_true, Bool.and_eq_true, List.isEmpty_iff, Bool.not_eq_true'] at htrue
  exact htrue.imp id And.right

/-- Statements one after the other. -/
lemma append (h : Holds σ target place value t F) {next : List Stmt} {u : Tree}
    (hbody : Restoring g body place F u σ)
    (hnext : ∀ {σ₁ value₁ F₁}, Holds σ₁ target place value₁ u F₁ →
      Restoring g next place F₁ w σ₁) : Restoring g (body ++ next) place F w σ := by
  obtain ⟨value₁, F₁, σ₁, hkeeps, hrep, hnew, heval⟩ := hbody
  obtain ⟨path, hdenotes, hpath⟩ := h.denotes
  have hread := State.read?_write (w := value₁) h.read
  have hlength : σ.heap.length ≤ σ₁.heap.length := by simpa using hkeeps.length
  have hholds : Holds σ₁ target place value₁ u F₁ := by
    refine ⟨?_, ⟨path, ?_, fun b hb => ⟨fun hmem => ?_, (hpath b hb).2⟩⟩, fun b hb hmem => ?_,
      hkeeps.read? h.outside hread, hrep⟩
    · rw [Enclosed, hkeeps.bindings]
      exact h.enclosed.write h.read
    · exact (hdenotes.write fun b hb => (hpath b hb).2).of_keeps hkeeps fun b hb => (hpath b hb).1
    · have := hdenotes.lt_length hb
      exact (hnew b hmem).elim (hpath b hb).1 (by omega)
    · have := State.lt_of_read? h.read hb
      exact (hnew b hmem).elim (h.outside b hb) (by omega)
  obtain ⟨value₂, F₂, σ₂, hkeeps', hrep', hnew', heval'⟩ := hnext hholds
  have hkeeps₂ : Keeps F (σ.write place value₂) (σ₁.write place value₂) := by
    have := hkeeps.write (w := value₂) h.outside hread
    rwa [State.write_write] at this
  refine ⟨value₂, F₂, σ₂, hkeeps₂.trans_of_new hkeeps' (by simpa using hnew), hrep',
    fun b hb => ?_, ?_⟩
  · rcases hnew' b hb with hb | hb
    · exact hnew b hb
    · exact .inr (hlength.trans hb)
  · filter_upwards [heval, heval'] with m hm hm'
    rw [evalStmts_append hm, hm']

/-! ### Functions of restoring statements -/

/-- Statements that restore a parameter, seen from outside of the function. -/
lemma exists_enter (h : Restoring g stmts (.named name) F w (σ.enter name value)) :
    ∃ value' cells σ', Keeps F σ σ' ∧ Rep σ'.heap value' w cells
      ∧ (∀ b ∈ cells, b ∈ F ∨ σ.heap.length ≤ b)
      ∧ ∀ᶠ m in Filter.atTop, evalStmts (g m) stmts (σ.enter name value)
        = some (none, σ'.enter name value') := by
  obtain ⟨value', cells, σ', hkeeps, hrep, hnew, heval⟩ := h
  have hbindings : σ'.bindings = (name, value') :: σ.bindings := by
    rw [hkeeps.bindings]
    simp [State.write, State.enter, Entries.put]
  refine ⟨value', cells, ⟨σ.bindings, σ'.heap⟩, ⟨rfl, hkeeps.length, hkeeps.cells⟩, hrep, hnew, ?_⟩
  have henter : State.enter ⟨σ.bindings, σ'.heap⟩ name value' = σ' := by
    rw [State.enter, ← hbindings]
  rwa [henter]

end Restoring

lemma evalExpr_enter {g : Globals} :
    evalExpr g (.identifier name) (σ.enter name value) = some (value, σ.enter name value) := by
  simp [evalExpr, State.enter, Entries.get?]

/-- A function returns what its statements leave in its parameter. -/
lemma evalStmts_returning {g : Globals} (hbody : body ≠ [])
    (hreturns : ∀ stmt ∈ body, stmt.isReturn = false)
    (h : evalStmts g body (σ.enter "data" value) = some (none, σ'.enter "data" value')) :
    evalStmts g (returning data body) (σ.enter "data" value)
      = some (some value', σ'.enter "data" value') := by
  have hlast : returning data body = body ++ [.ret (some data)] := by
    unfold returning
    split
    · rename_i last hlast
      rw [hreturns last (List.mem_of_getLast? hlast)]
      simp
    · exact absurd (List.getLast?_eq_none_iff.mp ‹_›) hbody
  rw [hlast, evalStmts_append h]
  exact evalStmts_ret evalExpr_enter

/-- A function for elements gives what its statements leave in its parameter, whether or not an
assignment to it was left out. -/
lemma evalStmts_itemBody {g : Globals} (hreturns : ∀ stmt ∈ body, stmt.isReturn = false)
    (h : evalStmts g body (σ.enter "item" value) = some (none, σ'.enter "item" value')) :
    ∃ σ₁, evalStmts g (itemBody body) (σ.enter "item" value) = some (some value', σ₁)
      ∧ σ₁.leave = σ' := by
  unfold itemBody
  split
  · rename_i e
    cases he : evalExpr g e (σ.enter "item" value) with
    | none => simp [evalStmts, evalStmt, evalExpr, evalPlace, he] at h
    | some x =>
      obtain ⟨v, σ₁⟩ := x
      have hwrite : σ₁.write (.named "item") v = σ'.enter "item" value' := by
        by_cases hplace : σ₁.isAssignable (.named "item") = true
        · simpa [evalStmts, evalStmt, evalExpr, evalPlace, he, hplace] using h
        · simp [evalStmts, evalStmt, evalExpr, evalPlace, he, hplace] at h
      obtain ⟨rfl, htail⟩ := Entries.put_eq_cons (congrArg State.bindings hwrite)
      refine ⟨σ₁, evalStmts_ret he, ?_⟩
      have hheap : σ₁.heap = σ'.heap := by
        simpa [State.write, State.enter] using congrArg State.heap hwrite
      rw [State.leave, htail, hheap]
  · rw [if_neg (by simpa using hreturns), evalStmts_append h]
    exact ⟨_, evalStmts_ret evalExpr_enter, rfl⟩

/-- The function for the elements of an array whose statements are given. -/
def applyToElement (body : List Stmt) (g : Globals) (v : Value) (σ : State) :
    Option (Value × State) := do
  let (result, σ) ← evalStmts g (itemBody body) (σ.enter "item" v)
  some (result.getD .undefined, σ.leave)

lemma guardedBody_not_isReturn (hreturns : ∀ stmt ∈ body, stmt.isReturn = false) :
    ∀ stmt ∈ guardedBody s target body, stmt.isReturn = false := by
  unfold guardedBody
  split
  · exact hreturns
  · simp [Stmt.isReturn]

namespace Restoring

/-- The function of statements that restore its argument, if it is there. -/
lemma function (hlinked : Linked options numberText api lossy r g) {heap : Heap}
    (hrep : Rep heap value t F) (hnull : t = .scalar .null → w = .scalar .null)
    (hne : body ≠ []) (hreturns : ∀ stmt ∈ body, stmt.isReturn = false)
    (hbody : (t = .scalar .null → s.admitsNull = false) →
      Holds (State.enter ⟨[], heap⟩ "data" value) data (.named "data") value t F →
      Restoring g body (.named "data") F w (State.enter ⟨[], heap⟩ "data" value)) :
    ∃ value' cells heap', Keeps F ⟨[], heap⟩ ⟨[], heap'⟩ ∧ Rep heap' value' w cells
      ∧ (∀ b ∈ cells, b ∈ F ∨ heap.length ≤ b)
      ∧ ∀ᶠ m in Filter.atTop, applyFunction (g m)
        ("data", returning data (guardedBody s data body)) value heap = some (value', heap') := by
  have hholds : Holds (State.enter ⟨[], heap⟩ "data" value) data (.named "data") value t F :=
    .enter (by simp [Enclosed, Entries.has, Entries.get?]) (by simp) hrep
  have hguarded := guarded hlinked hholds hnull fun ht => hbody ht hholds
  obtain ⟨value', cells, σ', hkeeps, hrep', hnew, heval⟩ := hguarded.exists_enter
  obtain ⟨bindings, heap'⟩ := σ'
  obtain rfl : bindings = [] := hkeeps.bindings
  refine ⟨value', cells, heap', hkeeps, hrep', hnew, ?_⟩
  filter_upwards [heval] with m hm
  have hreturning := evalStmts_returning (by simpa using hne)
    (guardedBody_not_isReturn hreturns) hm
  have hcall : applyFunction (g m) ("data", returning data (guardedBody s data body)) value heap
      = (evalStmts (g m) (returning data (guardedBody s data body))
        (State.enter ⟨[], heap⟩ "data" value)).bind
          fun result => some (result.1.getD .undefined, result.2.heap) := rfl
  rw [hcall, hreturning]
  rfl

/-- The function for the elements of an array restores an element, if it is there. -/
lemma callback (hlinked : Linked options numberText api lossy r g) (hσ : Enclosed σ) {slot : Slot}
    (hnull : slot.tree = .scalar .null → w = .scalar .null)
    (hreturns : ∀ stmt ∈ body, stmt.isReturn = false)
    (hbody : ∀ {σ₁ : State}, (slot.tree = .scalar .null → s.admitsNull = false) →
      Holds (σ₁.enter "item" slot.value) item (.named "item") slot.value slot.tree slot.cells →
      Restoring g body (.named "item") slot.cells w (σ₁.enter "item" slot.value)) :
    Turns (fun m => applyToElement (guardedBody s item body) (g m)) σ slot w := by
  intro σ₁ hbindings hrep
  have henclosed : Enclosed σ₁ := by simpa [Enclosed, hbindings] using hσ
  have hholds : Holds (σ₁.enter "item" slot.value) item (.named "item") slot.value slot.tree
      slot.cells := .enter henclosed (by simp) hrep
  have hguarded := guarded hlinked hholds hnull fun ht => hbody ht hholds
  obtain ⟨value', cells, σ₂, hkeeps, hrep', hnew, heval⟩ := hguarded.exists_enter
  refine ⟨value', cells, σ₂, hkeeps, hrep', hnew, ?_⟩
  filter_upwards [heval] with m hm
  obtain ⟨σ₃, hitem, hleave⟩ := evalStmts_itemBody (guardedBody_not_isReturn hreturns) hm
  simp [applyToElement, hitem, hleave]

end Restoring

end OpenApiTypes.Transformers
