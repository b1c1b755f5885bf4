/-
How generated statements run.

* `TypeScript.evalStmts_append`: statements run one after the other;
* `TypeScript.evalExpr_eq_none_of_isNullish`: what must not be done to undefined and null;
* `TypeScript.evalStmts_present`, `TypeScript.evalStmts_missing`: statements behind a test that a
  value is present;
* `TypeScript.Changes`: a run that changes nothing but some parts of a tree at one address, and
  what is new;
* `TypeScript.mapElements_eq`: a function that changes every element of an array in this way;
* `TypeScript.findSome?_function?`, `TypeScript.call_globals`: calls of functions that a module
  declares.
-/
import OpenApiTypes.Proofs.TypeScript.Representation
import OpenApiTypes.TypeScript.Build
import Mathlib.Order.Filter.AtTopBot.Basic

namespace OpenApiTypes.TypeScript

variable {g : Globals} {σ σ' σ'' : State} {v w : Value} {e : Expr} {s : Stmt} {ss ts : List Stmt}

/-! ### Statements -/

lemma evalStmts_cons (h : evalStmt g s σ = some (none, σ')) :
    evalStmts g (s :: ss) σ = evalStmts g ss σ' := by
  simp [evalStmts, h]

/-- Statements run one after the other. -/
lemma evalStmts_append (h : evalStmts g ss σ = some (none, σ')) :
    evalStmts g (ss ++ ts) σ = evalStmts g ts σ' := by
  induction ss generalizing σ with
  | nil =>
    simp only [evalStmts, Option.some.injEq, Prod.mk.injEq, true_and] at h
    rw [List.nil_append, h]
  | cons s ss ih =>
    rw [evalStmts] at h
    obtain ⟨⟨result, σ₁⟩, hs, hrest⟩ := Option.bind_eq_some_iff.mp h
    dsimp only at hrest
    split at hrest
    · rename_i hsome
      simp only [Option.some.injEq, Prod.mk.injEq] at hrest
      simp [hrest.1] at hsome
    · obtain rfl : result = none := by simpa using ‹¬ result.isSome = true›
      rw [List.cons_append, evalStmts_cons hs, ih hrest]

lemma evalStmts_expr (h : evalExpr g e σ = some (v, σ')) :
    evalStmts g [.expr e] σ = some (none, σ') := by
  simp [evalStmts, evalStmt, h]

lemma evalStmts_ret (h : evalExpr g e σ = some (v, σ')) :
    evalStmts g [.ret (some e)] σ = some (some v, σ') := by
  simp [evalStmts, evalStmt, h]

lemma evalExpr_isPresent (hg : g.isBuiltin σ "undefined" = true)
    (h : evalExpr g e σ = some (v, σ)) :
    evalExpr g (isPresent e) σ = some (.scalar (.bool (!v.isNullish)), σ) := by
  have hnone : σ.bindings.get? "undefined" = none := by
    simp only [Globals.isBuiltin, Entries.has, Bool.and_eq_true] at hg
    simpa using hg.1
  have hleft : evalExpr g (.binary e .strictUnequal (.identifier "undefined")) σ
      = some (.scalar (.bool (!decide (v = .undefined))), σ) := by
    simp [evalExpr, h, hnone, hg, Value.same?, Value.isNullish]
  have hright : evalExpr g (.binary e .strictUnequal (.literal .null)) σ
      = some (.scalar (.bool (!decide (v = .scalar .null))), σ) := by
    simp [evalExpr, h, Value.same?, Value.isNullish]
  rw [isPresent, evalExpr, hleft]
  simp only [Option.bind_eq_bind, Option.bind_some, Value.condition?, hright]
  by_cases hv : v = .undefined
  · simp [hv, Value.isNullish]
  · by_cases hnull : v = .scalar .null
    · simp [hnull, Value.isNullish]
    · have hpresent : v.isNullish = false := by
        unfold Value.isNullish
        split <;> simp_all
      simp [hv, hnull, hpresent]

lemma Value.isNullish_iff : v.isNullish = true ↔ v = .undefined ∨ v = .scalar .null := by
  unfold isNullish
  split <;> simp_all

/-- Taking a member of undefined or null, calling a method of it, or making a date or a long integer
of it has no result. -/
lemma evalExpr_eq_none_of_isNullish (h : evalExpr g e σ = some (v, σ')) (hv : v.isNullish = true)
    (member : String) (arguments : List Expr) : evalExpr g (.property e member) σ = none
      ∧ evalExpr g (.call (.property e member) arguments) σ = none
      ∧ evalExpr g (.construct (.identifier "Date") [e]) σ = none
      ∧ (g.isBuiltin σ' "BigInt" = true →
        evalExpr g (.call (.identifier "BigInt") [e]) σ = none) := by
  have hmethod : evalMethod g v member arguments σ' = none := by
    unfold evalMethod
    rcases Value.isNullish_iff.mp hv with rfl | rfl <;> split <;> simp [Value.address?]
  refine ⟨?_, ?_, ?_, fun hbuiltin => ?_⟩
  · rcases Value.isNullish_iff.mp hv with rfl | rfl <;> simp [evalExpr, h, Value.address?]
  · simp [evalExpr, h, hmethod]
  · rcases Value.isNullish_iff.mp hv with rfl | rfl <;> simp [evalExpr, h, Value.toDate?]
  · simp only [Globals.isBuiltin, Bool.and_eq_true, Bool.not_eq_true'] at hbuiltin
    rcases Value.isNullish_iff.mp hv with rfl | rfl <;>
      simp_all [evalExpr, Value.toBigint?]

/-- Statements behind a test that a value is present run if it is. -/
lemma evalStmts_present (hg : g.isBuiltin σ "undefined" = true)
    (h : evalExpr g e σ = some (v, σ)) (hv : v.isNullish = false)
    (hss : evalStmts g ss σ = some (none, σ')) :
    evalStmts g [.cond (isPresent e) ss] σ = some (none, σ') := by
  simp [evalStmts, evalStmt, evalExpr_isPresent hg h, hv, Value.condition?, hss]

/-- They do nothing if it is not. -/
lemma evalStmts_missing (hg : g.isBuiltin σ "undefined" = true)
    (h : evalExpr g e σ = some (v, σ)) (hv : v.isNullish = true) :
    evalStmts g [.cond (isPresent e) ss] σ = some (none, σ) := by
  simp [evalStmts, evalStmt, evalExpr_isPresent hg h, hv, Value.condition?]

/-! ### Changes of parts -/

/-- A run changes nothing but the parts of a tree at one address, and what is new. -/
structure Changes {ι : Type} (address : Nat) (keys : List ι) (σ : State) (f : ι → Slot)
    (σ' : State) (f' : ι → Slot) : Prop where
  keeps : Keeps (footprint address keys f) σ σ'
  slots : Slots σ'.heap address keys f'
  new : ∀ k ∈ keys, ∀ b ∈ (f' k).cells, b ∈ (f k).cells ∨ σ.heap.length ≤ b

namespace Changes

variable {ι : Type} {address : Nat} {keys : List ι} {f f' f'' : ι → Slot}

lemma refl (hs : Slots σ.heap address keys f) : Changes address keys σ f σ f :=
  ⟨.refl _ _, hs, fun _ _ _ hb => .inl hb⟩

lemma footprint_new (h : Changes address keys σ f σ' f') :
    ∀ b ∈ footprint address keys f', b ∈ footprint address keys f ∨ σ.heap.length ≤ b := by
  rintro b (rfl | ⟨k, hk, hb⟩)
  · exact .inl (.inl rfl)
  · exact (h.new k hk b hb).imp (fun hb => .inr ⟨k, hk, hb⟩) id

lemma trans (h : Changes address keys σ f σ' f') (h' : Changes address keys σ' f' σ'' f'') :
    Changes address keys σ f σ'' f'' where
  keeps := h.keeps.trans_of_new h'.keeps h.footprint_new
  slots := h'.slots
  new := fun k hk b hb => by
    rcases h'.new k hk b hb with hb | hb
    · exact h.new k hk b hb
    · exact .inr (h.keeps.length.trans hb)

/-- One part is changed. -/
lemma update [DecidableEq ι] (hs : Slots σ.heap address keys f)
    (haddress : address < σ.heap.length) {k : ι} (hk : k ∈ keys) {slot : Slot}
    (hkeeps : Keeps (insert address (f k).cells) σ σ')
    (hrep : Rep σ'.heap slot.value slot.tree slot.cells)
    (hnew : ∀ b ∈ slot.cells, b ∈ (f k).cells ∨ σ.heap.length ≤ b) :
    Changes address keys σ f σ' (Function.update f k slot) where
  keeps := hkeeps.mono fun b hb => by
    rcases hb with rfl | hb
    · exact .inl rfl
    · exact .inr ⟨k, hk, hb⟩
  slots := hs.update haddress hk hrep hnew fun hb hne hc =>
    hkeeps.cells (fun hmem => hmem.elim hne hb) hc
  new := fun l hl b hb => by
    by_cases hlk : l = k
    · subst hlk
      rw [Function.update_self] at hb
      exact hnew b hb
    · rw [Function.update_of_ne hlk] at hb
      exact .inl hb

end Changes

/-! ### Elements of an array -/

/-- A function that turns one tree into another one, at any place and time. -/
def Turns (apply : Nat → Value → State → Option (Value × State)) (σ : State) (slot : Slot)
    (w : Tree) : Prop :=
  ∀ {σ₁ : State}, σ₁.bindings = σ.bindings → Rep σ₁.heap slot.value slot.tree slot.cells →
    ∃ v cells σ₂, Keeps slot.cells σ₁ σ₂ ∧ Rep σ₂.heap v w cells
      ∧ (∀ b ∈ cells, b ∈ slot.cells ∨ σ₁.heap.length ≤ b)
      ∧ ∀ᶠ m in Filter.atTop, apply m slot.value σ₁ = some (v, σ₂)

/-- A function turns the elements of an array from an index on, one after the other. -/
lemma mapElements_eq {apply : Nat → Value → State → Option (Value × State)} {address : Nat}
    {values : List Value} {goal : Nat → Tree} (n : Nat) :
    ∀ {index : Nat} {σ : State} {f : Nat → Slot}, index + n = values.length →
      σ.heap[address]? = some (.array values) →
      Slots σ.heap address (List.range values.length) f →
      (∀ i, index ≤ i → i < values.length → values[i]? = some (f i).value
        ∧ Turns apply σ (f i) (goal i)) →
      ∃ f' σ', Changes address (List.range values.length) σ f σ' f'
        ∧ (∀ i < index, f' i = f i)
        ∧ (∀ i, index ≤ i → i < values.length → (f' i).tree = goal i)
        ∧ ∀ᶠ m in Filter.atTop, mapElements (apply m) address n index σ
          = some ((List.range' index n).map fun i => (f' i).value, σ') := by
  induction n with
  | zero =>
    intro index σ f hindex hcell hs hf
    exact ⟨f, σ, .refl hs, fun _ _ => rfl, fun i hi hlt => by omega, .of_forall fun m => rfl⟩
  | succ n ih =>
    intro index σ f hindex hcell hs hf
    have hmem : index ∈ List.range values.length := List.mem_range.mpr (by omega)
    obtain ⟨hvalue, hturns⟩ := hf index le_rfl (by omega)
    obtain ⟨v, cells, σ₁, hkeeps, hrep, hnew, hrun⟩ := hturns rfl (hs.reps index hmem)
    have hchanges : Changes address (List.range values.length) σ f σ₁
        (Function.update f index ⟨v, goal index, cells⟩) :=
      .update hs (List.getElem?_eq_some_iff.mp hcell).1 hmem
        (hkeeps.mono (Set.subset_insert _ _)) hrep hnew
    have hcell₁ := hkeeps.cells (hs.root index hmem) hcell
    have hrest : ∀ i, index + 1 ≤ i → i < values.length →
        values[i]? = some (Function.update f index ⟨v, goal index, cells⟩ i).value
          ∧ Turns apply σ₁ (Function.update f index ⟨v, goal index, cells⟩ i) (goal i) := by
      intro i hi hlt
      obtain ⟨hvalue, hturns⟩ := hf i (by omega) hlt
      rw [Function.update_of_ne (by omega)]
      exact ⟨hvalue, fun hbindings hrep => hturns (hbindings.trans hkeeps.bindings) hrep⟩
    obtain ⟨f', σ', hchanges', hsame, htrees, heval⟩ :=
      ih (by omega) hcell₁ hchanges.slots hrest
    have hindex' : f' index = ⟨v, goal index, cells⟩ := by
      rw [hsame index (by omega), Function.update_self]
    refine ⟨f', σ', hchanges.trans hchanges', fun i hi => ?_, fun i hi hlt => ?_, ?_⟩
    · rw [hsame i (by omega), Function.update_of_ne (by omega)]
    · by_cases heq : i = index
      · rw [heq, hindex']
      · exact htrees i (by omega) hlt
    · filter_upwards [hrun, heval] with m hm hm'
      simp [mapElements, State.elements?, hcell, hvalue, hm, hm', List.range'_succ, hindex']

/-! ### Modules -/

lemma Stmt.constName?_of_function? {name : String} {function : String × List Stmt}
    (h : s.function? name = some function) : s.constName? = some name := by
  unfold Stmt.function? at h
  split at h
  · split at h
    · rename_i heq
      exact congrArg some heq
    · simp at h
  · simp at h

/-- A module whose names differ declares one function under a name. -/
lemma findSome?_function? {module : List Stmt} (hnodup : (constNames module).Nodup)
    (hs : s ∈ module) {name : String} {function : String × List Stmt}
    (h : s.function? name = some function) :
    module.findSome? (Stmt.function? name) = some function := by
  induction module with
  | nil => simp at hs
  | cons t module ih =>
    rcases List.mem_cons.mp hs with rfl | hs
    · simp [h]
    have hname : name ∈ constNames module :=
      List.mem_filterMap.mpr ⟨s, hs, Stmt.constName?_of_function? h⟩
    rw [show t :: module = [t] ++ module from rfl, constNames_append, List.nodup_append] at hnodup
    have hnone : t.function? name = none := by
      by_contra hne
      obtain ⟨other, hother⟩ := Option.ne_none_iff_exists'.mp hne
      have hhead : name ∈ constNames [t] :=
        List.mem_filterMap.mpr ⟨t, by simp, Stmt.constName?_of_function? hother⟩
      exact hnodup.2.2 name hhead name hname rfl
    rw [List.findSome?_cons, hnone]
    exact ih hnodup.2.1 hs

/-- A call of a function that a module declares. -/
lemma call_globals {numberText : Number → String} {module : List Stmt} {name : String}
    {function : String × List Stmt}
    (h : module.findSome? (Stmt.function? name) = some function) (m : Nat) (heap : Heap) :
    (globals numberText module (m + 1)).call name v heap
      = applyFunction (globals numberText module m) function v heap := by
  simp [globals, h]

end OpenApiTypes.TypeScript
