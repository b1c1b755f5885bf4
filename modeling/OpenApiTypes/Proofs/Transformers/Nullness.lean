/-
Null where statements come upon it.

* `Transformers.Acts`: statements turn one tree into another one, at whichever place it is;
* `Transformers.Bears`: schemas whose statements leave null as it is without a test of their own;
  `Transformers.Bears.acts` says that they do;
* `Transformers.Tested`: schemas whose statements are put behind a test that the value is present,
  if they may be null themselves or have null among their items;
* `Transformers.Regular`: schemas whose items and properties can be told apart.
-/
import OpenApiTypes.Proofs.Transformers.Simulation

namespace OpenApiTypes.Transformers

open OpenApiTypes.Model
open OpenApiTypes.Output (Registry)
open OpenApiTypes.TypeScript
open OpenApiTypes.Config (TransformersOptions)

variable {options : TransformersOptions} {numberText : Number → String} {api : Api} {lossy : Prop}
  {r : Registry} {g : Nat → Globals} {s : Schema} {v : Json} {t u w : Tree} {target : Expr}
  {stmts next : List Stmt}

/-! ### Statements that act on a tree -/

/-- Statements turn one tree into another one, at whichever place their target finds it. -/
def Acts (g : Nat → Globals) (target : Expr) (stmts : List Stmt) (t w : Tree) : Prop :=
  ∀ {σ : State} {place value F}, Holds σ target place value t F → Restoring g stmts place F w σ

namespace Acts

lemma nil : Acts g target [] t t := fun h => .of_same h fun m => by simp [evalStmts]

lemma append (h : Acts g target stmts t u) (hnext : Acts g target next u w) :
    Acts g target (stmts ++ next) t w :=
  fun hholds => .append hholds (h hholds) fun hholds => hnext hholds

/-- Statements one after the other, each of which leaves a tree as it is. -/
lemma flatMap {α : Type} {xs : List α} {f : α → List Stmt} (h : ∀ x ∈ xs, Acts g target (f x) t t) :
    Acts g target (xs.flatMap f) t t := by
  induction xs with
  | nil => exact Acts.nil
  | cons x xs ih =>
    obtain ⟨hx, hxs⟩ := List.forall_mem_cons.mp h
    exact hx.append (ih hxs)

end Acts

/-! ### Null without a test -/

/-- A schema whose statements leave null as it is: there are none, or they are nothing but calls of
functions that test for null themselves or bear it. -/
inductive Bears (options : TransformersOptions) (api : Api) : Schema → Prop where
  | blank {s : Schema} (h : Blank options api False s) : Bears options api s
  | tested {s t : Schema} {pointer : String} (hpointer : s.pointer = some pointer)
      (hfind : api.catalog.find? pointer = some t) (hadmits : t.admitsNull = true) :
      Bears options api s
  | component {s t : Schema} {pointer : String} (hpointer : s.pointer = some pointer)
      (hfind : api.catalog.find? pointer = some t) (h : Bears options api t) : Bears options api s
  | composition {s : Schema} (hpointer : s.pointer = none) (hshape : isContainer s = false)
      (hitems : s.items ≠ []) (happlies : appliesItems s = true)
      (h : ∀ item ∈ s.items, Bears options api item) : Bears options api s

/-- The call of a function for a component that tests for null or bears it leaves null as it is. -/
lemma acts_null_of_pointer (hlinked : Linked options numberText api lossy r g) {pointer : String}
    {s' : Schema} (hpointer : s.pointer = some pointer)
    (hfind : api.catalog.find? pointer = some s')
    (h : s'.admitsNull = true ∨ ∀ {body}, Emits options lossy r s' data body →
      Acts g data body (.scalar .null) (.scalar .null))
    (he : Emits options lossy r s target stmts) :
    Acts g target stmts (.scalar .null) (.scalar .null) := by
  intro σ place value F hholds
  have hcomponent : Pointer.schemaName? pointer ≠ none := by
    intro hnone
    simp [Catalog.find?, hnone] at hfind
  rcases he.of_pointer hpointer hcomponent with
    ⟨-, rfl⟩ | ⟨p, name, hreference, ⟨hentry, rfl⟩ | ⟨-, rfl⟩⟩
  · exact Acts.nil hholds
  · obtain ⟨body, hbody, hcalls⟩ :=
      hlinked.exists_function (f := .helper pointer) trivial hreference hfind hentry
    refine .helper hlinked hcalls hbody.not_isReturn hholds id fun hv hparameter => ?_
    rcases h with hadmits | h
    · simp [hv rfl] at hadmits
    · exact h hbody hparameter
  · exact Acts.nil hholds

/-- The statements of a schema that bears null leave it as it is. -/
lemma Bears.acts (hlinked : Linked options numberText api lossy r g) (h : Bears options api s) :
    ∀ {target stmts}, Emits options lossy r s target stmts →
      Acts g target stmts (.scalar .null) (.scalar .null) := by
  induction h with
  | blank hblank =>
    intro target stmts he
    obtain rfl := hlinked.sound.emits_eq_nil hblank he
    exact Acts.nil
  | tested hpointer hfind hadmits =>
    exact acts_null_of_pointer hlinked hpointer hfind (.inl hadmits)
  | component hpointer hfind _ ih =>
    exact acts_null_of_pointer hlinked hpointer hfind (.inr ih)
  | composition hpointer hshape hitems happlies _ ih =>
    intro target stmts he
    rcases he.of_composition hpointer hshape happlies hitems with
      ⟨-, rfl⟩ | ⟨bodies, -, hbodies, rfl⟩
    · exact Acts.nil
    · exact Acts.flatMap fun x hx => ih x.1 (List.of_mem_zip hx).1 (hbodies x hx)

/-! ### Schemas that are tested for null -/

/-- A schema whose statements are put behind a test that the value is present, if it may be null
itself or has null among its items: it is the schema of a component, the element of an array or a
property that statements are made for. -/
inductive Tested (catalog : Catalog) (s t : Schema) : Prop where
  | step {u : Schema} (hvisits : Visits catalog s u) (hstep : Follows catalog u t)
      (hown : u.pointer ≠ none ∨ isContainer u = true) : Tested catalog s t

lemma Tested.head {catalog : Catalog} {s' t : Schema} (hstep : Follows catalog s s')
    (h : Tested catalog s' t) : Tested catalog s t := by
  obtain ⟨hvisits, hnext, hown⟩ := h
  exact ⟨.head hstep hvisits, hnext, hown⟩

/-- Where null conforms to a schema, the test is there or is not needed. -/
def Spares (options : TransformersOptions) (api : Api) (s : Schema) : Prop :=
  Conforms api.catalog s .null → s.admitsNull = true ∨ Bears options api s

/-! ### Regular schemas -/

/-- Whether a schema is null or void. -/
def isNullish (s : Schema) : Bool := (s.shape.map Shape.isNullish).getD false

/-- A schema whose properties have different names. Only containers and compositions have items, and
those that are null stand for no components. -/
structure Regular (s : Schema) : Prop where
  distinct : s.pointer = none → s.shape = some .object → (s.properties.map Prod.fst).Nodup
  items : s.pointer = none → isContainer s = false → s.items ≠ [] → s.shape = none
  nullish : s.pointer = none → ∀ item ∈ s.items, isNullish item = true → item.pointer = none

/-- Null is the only value of a schema that is null or void. -/
lemma eq_null_of_isNullish {catalog : Catalog} (h : Conforms catalog s v)
    (hpointer : s.pointer = none) (hnullish : isNullish s = true) : v = .null := by
  have hshape : s.shape = some .null ∨ s.shape = some .void := by
    unfold isNullish at hnullish
    cases hs : s.shape with
    | none => simp [hs] at hnullish
    | some shape => cases shape <;> simp_all [Shape.isNullish]
  cases h with
  | component hp => simp [hpointer] at hp
  | array _ hs | object _ hs | all _ hs | any _ hs => simp [hs] at hshape
  | leaf _ _ _ _ hadmits =>
    rcases hshape with hshape | hshape
    · simp only [Schema.Admits, hshape] at hadmits
      split at hadmits <;> simp_all
    · simp [Schema.Admits, hshape] at hadmits

end OpenApiTypes.Transformers
