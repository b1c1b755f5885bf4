/-
Which schemas need statements.

* `Transformers.Follows`, `Transformers.Visits`: the schemas whose statements are made for those of
  a schema, in one step and in several;
* `Transformers.Requests`: the references of the helpers that are asked for on the way;
* `Transformers.Blank`: a schema for which there are no statements, whatever names are given;
* `Transformers.Blank.follows`: nor are there any for the schemas that it follows;
* `Transformers.Emits.blank`: a schema that was given no statements is blank if the components of
  all withdrawn helpers are.
-/
import OpenApiTypes.Proofs.Model.Parts
import OpenApiTypes.Proofs.Transformers.Emission
import OpenApiTypes.Proofs.Transformers.Leaf
import Mathlib.Logic.Relation

namespace OpenApiTypes.Transformers

open OpenApiTypes.Model
open OpenApiTypes.Output (Registry)
open OpenApiTypes.TypeScript (Expr Stmt)
open OpenApiTypes.Config (TransformersOptions)

variable {options : TransformersOptions} {api : Api} {catalog : Catalog} {lossy lossy' : Prop}
  {r : Registry} {s t : Schema} {target : Expr} {stmts : List Stmt} {p : String}

/-! ### Visited schemas -/

/-- Statements for the second schema are made for those of the first one. -/
inductive Follows (catalog : Catalog) : Schema → Schema → Prop where
  | component {s t : Schema} {pointer : String} (hpointer : s.pointer = some pointer)
      (hfind : catalog.find? pointer = some t) : Follows catalog s t
  | element {s t : Schema} {rest : List Schema} (hpointer : s.pointer = none)
      (hshape : s.shape = some .array) (hitems : s.items = t :: rest) : Follows catalog s t
  | property {s : Schema} {property : String × Schema} (hpointer : s.pointer = none)
      (hshape : s.shape = some .object) (hproperty : property ∈ s.properties) :
      Follows catalog s property.2
  | item {s t : Schema} (hpointer : s.pointer = none) (hshape : isContainer s = false)
      (happlies : appliesItems s = true) (hitem : t ∈ s.items) : Follows catalog s t

/-- Statements for the second schema are made for those of the first one, in some steps. -/
def Visits (catalog : Catalog) : Schema → Schema → Prop := Relation.ReflTransGen (Follows catalog)

namespace Follows

lemma leads (h : Follows catalog s t) : s.Leads catalog t := by
  cases h with
  | component hpointer hfind => exact .component hpointer hfind
  | element _ _ hitems => exact .item (by simp [hitems])
  | property _ _ hproperty => exact .property hproperty
  | item _ _ _ hitem => exact .item hitem

/-- What holds of the schemas that are visited from a schema holds of those that are visited from
one that follows it. -/
lemma forall_visits {property : Schema → Prop} (h : Follows catalog s t)
    (hs : ∀ u, Visits catalog s u → property u) : ∀ u, Visits catalog t u → property u :=
  fun u hu => hs u (.head h hu)

end Follows

/-- The schemas that follow a schema. -/
def following (catalog : Catalog) (s : Schema) : List Schema :=
  match s.pointer, s.shape with
  | some pointer, _ => (catalog.find? pointer).toList
  | none, some .array => s.items.head?.toList
  | none, some .object => s.properties.map Prod.snd
  | none, _ => if appliesItems s then s.items else []

lemma Follows.mem_following (h : Follows catalog s t) : t ∈ following catalog s := by
  cases h with
  | component hpointer hfind => simp [following, hpointer, hfind]
  | element hpointer hshape hitems => simp [following, hpointer, hshape, hitems]
  | property hpointer hshape hproperty =>
    simpa [following, hpointer, hshape] using ⟨_, hproperty⟩
  | item hpointer hshape happlies hitem =>
    unfold following
    split <;> simp_all [isContainer]

lemma Visits.reaches (h : Visits catalog s t) : s.Reaches catalog t :=
  Relation.ReflTransGen.mono (fun _ _ => Follows.leads) _ _ h

/-- Schemas among which are all those that follow one of them are all that are visited. -/
lemma mem_of_visits {schemas : List Schema}
    (hclosed : ∀ s ∈ schemas, ∀ t ∈ following catalog s, t ∈ schemas) (hs : s ∈ schemas)
    (h : Visits catalog s t) : t ∈ schemas := by
  induction h with
  | refl => exact hs
  | tail _ hstep ih => exact hclosed _ ih _ hstep.mem_following

/-- The helper that is known under a reference is asked for on the way. -/
def Requests (options : TransformersOptions) (catalog : Catalog) (s : Schema) (p : String) : Prop :=
  ∃ t pointer, Visits catalog s t ∧ t.pointer = some pointer
    ∧ (Function.helper pointer).reference? options = some p

lemma Requests.head (hstep : Follows catalog s t) (h : Requests options catalog t p) :
    Requests options catalog s p := by
  obtain ⟨u, pointer, hvisits, hpointer, hreference⟩ := h
  exact ⟨u, pointer, .head hstep hvisits, hpointer, hreference⟩

/-! ### Blank schemas -/

/-- A schema for which there are no statements, whatever names are given. `lossy` tells whether
statements may have been left out because schemas nest too deep. -/
inductive Blank (options : TransformersOptions) (api : Api) (lossy : Prop) : Schema → Prop where
  | lost {s : Schema} (h : lossy) : Blank options api lossy s
  | foreign {s : Schema} {pointer : String} (hpointer : s.pointer = some pointer)
      (hforeign : Pointer.schemaName? pointer = none) : Blank options api lossy s
  | component {s : Schema} {pointer p : String} {f : Function} (hpointer : s.pointer = some pointer)
      (hreference : (Function.helper pointer).reference? options = some p)
      (hf : f.BelongsTo api) (hsame : f.reference? options = some p)
      (h : ∀ t, f.schema? api = some t → Blank options api lossy t) : Blank options api lossy s
  | noElement {s : Schema} (hpointer : s.pointer = none) (hshape : s.shape = some .array)
      (hitems : s.items = []) : Blank options api lossy s
  | array {s element : Schema} {rest : List Schema} (hpointer : s.pointer = none)
      (hshape : s.shape = some .array) (hitems : s.items = element :: rest)
      (h : Blank options api lossy element) : Blank options api lossy s
  | object {s : Schema} (hpointer : s.pointer = none) (hshape : s.shape = some .object)
      (h : ∀ property ∈ s.properties, Blank options api lossy property.2) :
      Blank options api lossy s
  | fixed {s : Schema} (hpointer : s.pointer = none)
      (hshape : s.shape = some .tuple ∨ s.shape = some .enum) : Blank options api lossy s
  | leaf {s : Schema} (hpointer : s.pointer = none) (hshape : isContainer s = false)
      (hitems : s.items = []) (hdate : ¬ IsDate options s) (hbigint : ¬ IsBigint options s) :
      Blank options api lossy s
  | composition {s : Schema} (hpointer : s.pointer = none) (hshape : isContainer s = false)
      (hitems : s.items ≠ []) (happlies : appliesItems s = true)
      (h : ∀ item ∈ s.items, Blank options api lossy item) : Blank options api lossy s
  | union {s : Schema} (hpointer : s.pointer = none) (hshape : isContainer s = false)
      (hitems : s.items ≠ []) (happlies : appliesItems s = false) : Blank options api lossy s

/-- The function that is known under a reference belongs to a blank schema, or to none. -/
def Withdrawn (options : TransformersOptions) (api : Api) (lossy : Prop) (p : String) : Prop :=
  ∃ f : Function, f.BelongsTo api ∧ f.reference? options = some p
    ∧ ∀ s, f.schema? api = some s → Blank options api lossy s

lemma Blank.mono (h : Blank options api lossy s) (hl : lossy → lossy') :
    Blank options api lossy' s := by
  induction h with
  | lost h => exact .lost (hl h)
  | foreign hpointer hforeign => exact .foreign hpointer hforeign
  | component hpointer hreference hf hsame _ ih => exact .component hpointer hreference hf hsame ih
  | noElement hpointer hshape hitems => exact .noElement hpointer hshape hitems
  | array hpointer hshape hitems _ ih => exact .array hpointer hshape hitems ih
  | object hpointer hshape _ ih => exact .object hpointer hshape ih
  | fixed hpointer hshape => exact .fixed hpointer hshape
  | leaf hpointer hshape hitems hdate hbigint => exact .leaf hpointer hshape hitems hdate hbigint
  | composition hpointer hshape hitems happlies _ ih =>
    exact .composition hpointer hshape hitems happlies ih
  | union hpointer hshape hitems happlies => exact .union hpointer hshape hitems happlies

lemma Withdrawn.mono (h : Withdrawn options api lossy p) (hl : lossy → lossy') :
    Withdrawn options api lossy' p := by
  obtain ⟨f, hf, hreference, hs⟩ := h
  exact ⟨f, hf, hreference, fun s h => (hs s h).mono hl⟩

lemma exists_mem_zip {α β : Type} {l : List α} {l' : List β} (h : l'.length = l.length) {a : α}
    (ha : a ∈ l) : ∃ b, (a, b) ∈ l.zip l' := by
  obtain ⟨i, hi, rfl⟩ := List.mem_iff_getElem.mp ha
  have hzip : i < (l.zip l').length := by rw [List.length_zip]; omega
  exact ⟨l'[i], List.mem_iff_getElem.mpr ⟨i, hzip, by simp⟩⟩

lemma map_name_zip {α β : Type} {properties : List (String × α)} {bodies : List β}
    (h : properties.length ≤ bodies.length) :
    (properties.zip bodies).map (fun x => x.1.1) = properties.map Prod.fst := by
  have := congrArg (List.map Prod.fst) (List.map_fst_zip h)
  simpa [Function.comp_def] using this

/-- A schema that was given no statements is blank if the components of all withdrawn helpers
are. -/
lemma Emits.blank (h : Emits options lossy r s target stmts) (hnil : stmts = [])
    (hr : ∀ {p name}, r.status? p .value fileId = some (.suppressed name) →
      Withdrawn options api lossy p) : Blank options api lossy s := by
  induction h with
  | lost h => exact .lost h
  | foreign hpointer hforeign => exact .foreign hpointer hforeign
  | call => simp at hnil
  | withdrawn hpointer hreference hentry =>
    obtain ⟨f, hf, hsame, hblank⟩ := hr hentry
    exact .component hpointer hreference hf hsame hblank
  | noElement hpointer hshape hitems => exact .noElement hpointer hshape hitems
  | array hpointer hshape hitems _ ih =>
    exact .array hpointer hshape hitems (ih (by simpa using hnil))
  | object hpointer hshape hlength _ ih =>
    refine .object hpointer hshape fun property hproperty => ?_
    obtain ⟨body, hbody⟩ := exists_mem_zip hlength hproperty
    exact ih _ hbody (by simpa using List.flatMap_eq_nil_iff.mp hnil _ hbody)
  | fixed hpointer hshape => exact .fixed hpointer hshape
  | leaf hpointer hshape hitems =>
    obtain ⟨hdate, hbigint⟩ := revive_eq_nil_iff.mp hnil
    exact .leaf hpointer hshape hitems hdate hbigint
  | composition hpointer hshape hitems happlies hlength _ ih =>
    refine .composition hpointer hshape hitems happlies fun item hitem => ?_
    obtain ⟨body, hbody⟩ := exists_mem_zip hlength hitem
    exact ih _ hbody (List.flatMap_eq_nil_iff.mp hnil _ hbody)
  | union hpointer hshape hitems happlies => exact .union hpointer hshape hitems happlies

/-! ### References of one schema -/

/-- Functions that are known under one reference are for one schema. -/
def Unambiguous (options : TransformersOptions) (api : Api) : Prop :=
  ∀ ⦃f f' : Function⦄ ⦃p⦄, f.BelongsTo api → f'.BelongsTo api → f.reference? options = some p →
    f'.reference? options = some p → f.schema? api = f'.schema? api

section

variable (hsame : Unambiguous options api)
include hsame

/-- What a blank schema stands for is blank. -/
lemma Blank.of_component (h : Blank options api False s) {pointer : String}
    (hpointer : s.pointer = some pointer) (hfind : api.catalog.find? pointer = some t) :
    Blank options api False t := by
  cases h with
  | lost h => exact h.elim
  | foreign hp hforeign =>
    obtain rfl := Option.some.inj (hpointer.symm.trans hp)
    simp [Catalog.find?, hforeign] at hfind
  | @component _ _ _ f hp hreference hf hreference' hblank =>
    obtain rfl := Option.some.inj (hpointer.symm.trans hp)
    have hhelper : (Function.helper pointer).BelongsTo api := trivial
    exact hblank t ((hsame hf hhelper hreference' hreference).trans hfind)
  | noElement hp | array hp | object hp | fixed hp | leaf hp | composition hp | union hp =>
    simp [hpointer] at hp

/-- A blank schema follows blank schemas only. -/
lemma Blank.follows (h : Blank options api False s) (hstep : Follows api.catalog s t) :
    Blank options api False t := by
  cases hstep with
  | component hpointer hfind => exact h.of_component hsame hpointer hfind
  | element hpointer hshape hitems =>
    cases h with
    | lost h => exact h.elim
    | foreign hp | component hp => simp [hpointer] at hp
    | noElement _ _ hno => simp [hitems] at hno
    | array _ _ hitems' h =>
      obtain ⟨rfl, rfl⟩ := List.cons.inj (hitems.symm.trans hitems')
      exact h
    | object _ hs | fixed _ hs => simp [hshape] at hs
    | leaf _ hs | composition _ hs | union _ hs => simp [isContainer, hshape] at hs
  | property hpointer hshape hproperty =>
    cases h with
    | lost h => exact h.elim
    | foreign hp | component hp => simp [hpointer] at hp
    | noElement _ hs | array _ hs | fixed _ hs => simp [hshape] at hs
    | object _ _ h => exact h _ hproperty
    | leaf _ hs | composition _ hs | union _ hs => simp [isContainer, hshape] at hs
  | item hpointer hshape happlies hitem =>
    cases h with
    | lost h => exact h.elim
    | foreign hp | component hp => simp [hpointer] at hp
    | noElement _ hs | array _ hs | object _ hs => simp [isContainer, hs] at hshape
    | fixed _ hs => rcases hs with hs | hs <;> simp [isContainer, hs] at hshape
    | leaf _ _ hitems => simp [hitems] at hitem
    | composition _ _ _ _ h => exact h _ hitem
    | union _ _ _ hnot => simp [happlies] at hnot

lemma Blank.visits (h : Blank options api False s) (hvisits : Visits api.catalog s t) :
    Blank options api False t := by
  induction hvisits with
  | refl => exact h
  | tail _ hstep ih => exact ih.follows hsame hstep

end

end OpenApiTypes.Transformers
