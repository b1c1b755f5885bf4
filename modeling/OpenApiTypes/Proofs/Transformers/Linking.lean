/-
Generated statements among the functions that they call.

* `Transformers.Sound`: the names of a registry were given for functions with statements, and
  withdrawn from others;
* `Transformers.Linked`: the functions of a module are those whose names a registry gives;
* `Transformers.Emits.of_pointer`, `Transformers.Emits.of_array`, `Transformers.Emits.of_object`,
  `Transformers.Emits.of_leaf`, `Transformers.Emits.of_whole`, `Transformers.Emits.of_composition`,
  `Transformers.Emits.of_isNullable`: the statements for each kind of schema, unless they were left
  out because schemas nest too deep;
* `Transformers.OwnNames`: objects whose members can be told from those that every record inherits;
* `Transformers.Restores.eq_ofJson`: where a schema is blank, nothing has to be restored.
-/
import OpenApiTypes.Proofs.Transformers.Demand
import OpenApiTypes.Proofs.Transformers.Restoration
import OpenApiTypes.Proofs.TypeScript.Execution

namespace OpenApiTypes.Transformers

open OpenApiTypes.Model
open OpenApiTypes.Output (Registry)
open OpenApiTypes.TypeScript
open OpenApiTypes.Config (TransformersOptions)

variable {options : TransformersOptions} {numberText : Number → String} {api : Api} {lossy : Prop}
  {r : Registry} {g : Nat → Globals} {s : Schema} {v : Json} {w : Tree} {target : Expr}
  {stmts : List Stmt}

/-! ### Functions of a module -/

/-- The names of a registry were given for functions that have statements, and withdrawn from
functions of blank schemas. -/
structure Sound (options : TransformersOptions) (api : Api) (lossy : Prop) (r : Registry) :
    Prop where
  unambiguous : Unambiguous options api
  active : ∀ {p name}, r.status? p .value fileId = some (.active name) →
    ∃ (f : Function) (s : Schema) (body : List Stmt), f.BelongsTo api
      ∧ f.reference? options = some p ∧ f.schema? api = some s
      ∧ Emits options lossy r s data body ∧ body ≠ []
  withdrawn : ∀ {p name}, r.status? p .value fileId = some (.suppressed name) →
    Withdrawn options api lossy p

/-- A name calls the function that is made of the statements for a schema. -/
structure Calls (g : Nat → Globals) (name : String) (s : Schema) (body : List Stmt) : Prop where
  ne_nil : body ≠ []
  not_parameter : name ∉ ["data", "item"]
  declared : ∀ m, name ∈ (g m).declared
  call_eq : ∀ m v heap, (g (m + 1)).call name v heap
    = applyFunction (g m) ("data", returning data (guardedBody s data body)) v heap

/-- The functions of a module are those whose names a registry gives. Helpers of blank schemas are
withdrawn. -/
structure Linked (options : TransformersOptions) (numberText : Number → String) (api : Api)
    (lossy : Prop) (r : Registry) (g : Nat → Globals) : Prop where
  numberText_eq : ∀ m, (g m).numberText = numberText
  not_declared : ∀ m, ∀ name ∈ ["undefined", "Date", "BigInt"], name ∉ (g m).declared
  unambiguous : Unambiguous options api
  withdrawn : ∀ {p name}, r.status? p .value fileId = some (.suppressed name) →
    Withdrawn options api lossy p
  active : ∀ {p name}, r.status? p .value fileId = some (.active name) →
    ∃ (f : Function) (s : Schema) (body : List Stmt), f.BelongsTo api
      ∧ f.reference? options = some p ∧ f.schema? api = some s
      ∧ Emits options lossy r s data body ∧ Calls g name s body

namespace Linked

variable (h : Linked options numberText api lossy r g)
include h

lemma sound : Sound options api lossy r := by
  refine ⟨h.unambiguous, fun hentry => ?_, h.withdrawn⟩
  obtain ⟨f, s, body, hf, hreference, hs, hemits, hcalls⟩ := h.active hentry
  exact ⟨f, s, body, hf, hreference, hs, hemits, hcalls.ne_nil⟩

/-- The function that has a name is called by it. -/
lemma exists_function {f : Function} {p name : String} (hf : f.BelongsTo api)
    (hreference : f.reference? options = some p)
    (hs : f.schema? api = some s)
    (hentry : r.status? p .value fileId = some (.active name)) :
    ∃ body, Emits options lossy r s data body ∧ Calls g name s body := by
  obtain ⟨f', s', body, hf', hreference', hs', hemits, hcalls⟩ := h.active hentry
  obtain rfl : s' = s := Option.some.inj
    (hs'.symm.trans ((h.unambiguous hf' hf hreference' hreference).trans hs))
  exact ⟨body, hemits, hcalls⟩

end Linked

/-! ### Statements for a kind of schema -/

namespace IsNullable

variable {item : Schema} (h : IsNullable s item)
include h

lemma isNullablePair : Transformers.isNullablePair s.items = true := by
  obtain ⟨-, -, nothing, ⟨-, hshape, -⟩, hitems | hitems⟩ := h <;>
    simp [Transformers.isNullablePair, hitems, hshape, Shape.isNullish]

lemma admitsNull : s.admitsNull = true := by
  obtain ⟨-, -, nothing, ⟨-, hshape, -⟩, hitems | hitems⟩ := h <;>
    simp [Schema.admitsNull, hitems, Schema.hasShape, hshape]

lemma follows {catalog : Catalog} (hpointer : s.pointer = none) : Follows catalog s item :=
  .item hpointer (by simp [isContainer, h.1]) (by simp [appliesItems, h.isNullablePair]) h.mem_items

end IsNullable

namespace Emits

variable (he : Emits options lossy r s target stmts)
include he

/-- For a component there is a call, unless its function is withdrawn. -/
lemma of_pointer {pointer : String} (hpointer : s.pointer = some pointer)
    (hcomponent : Pointer.schemaName? pointer ≠ none) :
    lossy ∧ stmts = [] ∨ ∃ p name, (Function.helper pointer).reference? options = some p
      ∧ (r.status? p .value fileId = some (.active name) ∧ stmts = [callStatement name target]
        ∨ r.status? p .value fileId = some (.suppressed name) ∧ stmts = []) := by
  cases he with
  | lost h => exact .inl ⟨h, rfl⟩
  | foreign hp hforeign =>
    obtain rfl := Option.some.inj (hpointer.symm.trans hp)
    exact absurd hforeign hcomponent
  | @call _ _ pointer' p name hp hreference hentry =>
    obtain rfl := Option.some.inj (hpointer.symm.trans hp)
    exact .inr ⟨p, name, hreference, .inl ⟨hentry, rfl⟩⟩
  | @withdrawn _ _ pointer' p name hp hreference hentry =>
    obtain rfl := Option.some.inj (hpointer.symm.trans hp)
    exact .inr ⟨p, name, hreference, .inr ⟨hentry, rfl⟩⟩
  | noElement hp | array hp | object hp | fixed hp | leaf hp | composition hp | union hp =>
    simp [hpointer] at hp

lemma of_foreign {pointer : String} (hpointer : s.pointer = some pointer)
    (hforeign : Pointer.schemaName? pointer = none) : stmts = [] := by
  cases he with
  | lost | foreign | withdrawn => rfl
  | call hp hreference =>
    obtain rfl := Option.some.inj (hpointer.symm.trans hp)
    simp [Function.reference?, hforeign] at hreference
  | noElement hp | array hp | object hp | fixed hp | leaf hp | composition hp | union hp =>
    simp [hpointer] at hp

variable (hpointer : s.pointer = none)
include hpointer

lemma of_array (hshape : s.shape = some .array) {element : Schema} {rest : List Schema}
    (hitems : s.items = element :: rest) :
    lossy ∧ stmts = [] ∨ ∃ body, Emits options lossy r element item body
      ∧ stmts = arrayBody target (guardedBody element item body) := by
  cases he with
  | lost h => exact .inl ⟨h, rfl⟩
  | foreign hp | call hp | withdrawn hp => simp [hpointer] at hp
  | noElement _ _ hno => simp [hitems] at hno
  | @array _ _ _ _ body _ _ hitems' hbody =>
    obtain ⟨rfl, rfl⟩ := List.cons.inj (hitems.symm.trans hitems')
    exact .inr ⟨body, hbody, rfl⟩
  | object _ hs | fixed _ hs => simp [hshape] at hs
  | leaf _ hs | composition _ hs | union _ hs => simp [isContainer, hshape] at hs

lemma of_object (hshape : s.shape = some .object) :
    lossy ∧ stmts = [] ∨ ∃ bodies : List (List Stmt), bodies.length = s.properties.length
      ∧ (∀ x ∈ s.properties.zip bodies, Emits options lossy r x.1.2 (.property target x.1.1) x.2)
      ∧ stmts = (s.properties.zip bodies).flatMap fun x => propertyBody s target x.1 x.2 := by
  cases he with
  | lost h => exact .inl ⟨h, rfl⟩
  | foreign hp | call hp | withdrawn hp => simp [hpointer] at hp
  | noElement _ hs | array _ hs | fixed _ hs => simp [hshape] at hs
  | @object _ _ bodies _ _ hlength hbodies => exact .inr ⟨bodies, hlength, hbodies, rfl⟩
  | leaf _ hs | composition _ hs | union _ hs => simp [isContainer, hshape] at hs

lemma of_leaf (hitems : s.items = []) (harray : s.shape ≠ some .array)
    (hobject : s.shape ≠ some .object) :
    lossy ∧ stmts = [] ∨ stmts = revive options s target := by
  cases he with
  | lost h => exact .inl ⟨h, rfl⟩
  | foreign hp | call hp | withdrawn hp => simp [hpointer] at hp
  | noElement _ hs | array _ hs => exact absurd hs harray
  | object _ hs => exact absurd hs hobject
  | fixed _ hs =>
    refine .inr (revive_of_not (fun hdate => ?_) fun hbigint => ?_).symm
    · simp [hdate.2.1] at hs
    · simp [hbigint.2.1] at hs
  | leaf => exact .inr rfl
  | composition _ _ hne | union _ _ hne => exact absurd hitems hne

lemma of_whole (hshape : s.shape = some .tuple ∨ s.shape = some .enum
    ∨ s.shape = some .array ∧ s.items = []) : stmts = [] := by
  cases he with
  | lost h => rfl
  | foreign hp | call hp | withdrawn hp => simp [hpointer] at hp
  | noElement | fixed => rfl
  | array _ hs hitems => simp [hs, hitems] at hshape
  | object _ hs => simp [hs] at hshape
  | leaf _ hs | composition _ hs | union _ hs =>
    rcases hshape with hshape | hshape | ⟨hshape, -⟩ <;> simp [isContainer, hshape] at hs

variable (hshape : isContainer s = false)
include hshape

lemma of_composition (happlies : appliesItems s = true) (hitems : s.items ≠ []) :
    lossy ∧ stmts = [] ∨ ∃ bodies : List (List Stmt), bodies.length = s.items.length
      ∧ (∀ x ∈ s.items.zip bodies, Emits options lossy r x.1 target x.2)
      ∧ stmts = (s.items.zip bodies).flatMap Prod.snd := by
  cases he with
  | lost h => exact .inl ⟨h, rfl⟩
  | foreign hp | call hp | withdrawn hp => simp [hpointer] at hp
  | noElement _ hs | array _ hs | object _ hs => simp [isContainer, hs] at hshape
  | fixed _ hs => rcases hs with hs | hs <;> simp [isContainer, hs] at hshape
  | leaf _ _ hno => exact absurd hno hitems
  | @composition _ _ bodies _ _ _ _ hlength hbodies => exact .inr ⟨bodies, hlength, hbodies, rfl⟩
  | union _ _ _ hnot => simp [happlies] at hnot

lemma of_union (happlies : appliesItems s = false) (hitems : s.items ≠ []) : stmts = [] := by
  cases he with
  | lost | union => rfl
  | foreign hp | call hp | withdrawn hp => simp [hpointer] at hp
  | noElement _ hs | array _ hs | object _ hs => simp [isContainer, hs] at hshape
  | fixed _ hs => rcases hs with hs | hs <;> simp [isContainer, hs] at hshape
  | leaf _ _ hno => exact absurd hno hitems
  | composition _ _ _ hyes => simp [happlies] at hyes

end Emits

/-- For the union of a schema with null there are the statements for the schema. -/
lemma Emits.of_isNullable (he : Emits options False r s target stmts) (hpointer : s.pointer = none)
    {item : Schema} (h : IsNullable s item) : Emits options False r item target stmts := by
  obtain ⟨hshape, -, nothing, ⟨hnp, hns, hni⟩, hitems⟩ := id h
  have hnothing : ∀ {stmts}, Emits options False r nothing target stmts → stmts = [] := by
    intro stmts he
    rw [(he.of_leaf hnp hni (by simp [hns]) (by simp [hns])).resolve_left And.left]
    exact revive_of_not (fun hdate => by simpa [hns] using hdate.2.1)
      fun hbigint => by simpa [hns] using hbigint.2.1
  obtain ⟨bodies, hlength, hbodies, rfl⟩ := (he.of_composition hpointer
    (by simp [isContainer, hshape])
    (by simp [appliesItems, h.isNullablePair]) h.items_ne_nil).resolve_left And.left
  have htwo : bodies.length = 2 := by
    rcases hitems with hitems | hitems <;> simpa [hitems] using hlength
  obtain ⟨first, second, rfl⟩ := List.length_eq_two.mp htwo
  rcases hitems with hitems | hitems <;> rw [hitems] at hbodies ⊢
  · obtain rfl : second = [] := hnothing (hbodies (nothing, second) (by simp))
    simpa using hbodies (item, first) (by simp)
  · obtain rfl : first = [] := hnothing (hbodies (nothing, first) (by simp))
    simpa using hbodies (item, second) (by simp)

/-! ### Blank schemas -/

lemma schemaName?_ne_none {p pointer : String}
    (h : (Function.helper pointer).reference? options = some p) :
    Pointer.schemaName? pointer ≠ none := by
  intro hnone
  simp [Function.reference?, hnone] at h

/-- A blank schema is given no statements. -/
lemma Sound.emits_eq_nil (h : Sound options api lossy r) (hblank : Blank options api False s)
    (he : Emits options lossy r s target stmts) : stmts = [] := by
  induction hblank generalizing target stmts with
  | lost h => exact h.elim
  | foreign hpointer hforeign => exact he.of_foreign hpointer hforeign
  | @component s pointer p f hpointer hreference hf hsame _ ih =>
    rcases he.of_pointer hpointer (schemaName?_ne_none hreference) with
      ⟨-, hnil⟩ | ⟨q, name, hq, ⟨hentry, -⟩ | ⟨-, hnil⟩⟩
    · exact hnil
    · obtain rfl := Option.some.inj (hreference.symm.trans hq)
      obtain ⟨f', t, body, hf', hreference', ht, hemits, hne⟩ := h.active hentry
      exact absurd (ih t ((h.unambiguous hf hf' hsame hreference').trans ht) hemits) hne
    · exact hnil
  | noElement hpointer hshape hitems => exact he.of_whole hpointer (.inr (.inr ⟨hshape, hitems⟩))
  | array hpointer hshape hitems _ ih =>
    rcases he.of_array hpointer hshape hitems with ⟨-, hnil⟩ | ⟨body, hbody, rfl⟩
    · exact hnil
    · simpa using ih hbody
  | object hpointer hshape _ ih =>
    rcases he.of_object hpointer hshape with ⟨-, hnil⟩ | ⟨bodies, -, hbodies, rfl⟩
    · exact hnil
    · refine List.flatMap_eq_nil_iff.mpr fun x hx => ?_
      simpa using ih x.1 (List.of_mem_zip hx).1 (hbodies x hx)
  | fixed hpointer hshape => exact he.of_whole hpointer (hshape.imp id .inl)
  | leaf hpointer hshape hitems hdate hbigint =>
    obtain ⟨harray, hobject⟩ := shape_ne_of_isContainer hshape
    rcases he.of_leaf hpointer hitems harray hobject with ⟨-, hnil⟩ | hrevive
    · exact hnil
    · exact hrevive.trans (revive_of_not hdate hbigint)
  | composition hpointer hshape hitems happlies _ ih =>
    rcases he.of_composition hpointer hshape happlies hitems with
      ⟨-, hnil⟩ | ⟨bodies, -, hbodies, rfl⟩
    · exact hnil
    · refine List.flatMap_eq_nil_iff.mpr fun x hx => ?_
      exact ih x.1 (List.of_mem_zip hx).1 (hbodies x hx)
  | union hpointer hshape hitems happlies => exact he.of_union hpointer hshape happlies hitems

/-- An object whose optional properties that statements are made for have other names than what
every record inherits: for records without such a property, their tests find nothing. -/
def OwnNames (options : TransformersOptions) (api : Api) (s : Schema) : Prop :=
  s.pointer = none → s.shape = some .object → ∀ property ∈ s.properties,
    property.1 ∈ inheritedNames → property.1 ∈ s.required ∨ Blank options api False property.2

lemma OwnNames.of_forall (h : ∀ property ∈ s.properties, property.1 ∉ inheritedNames) :
    OwnNames options api s :=
  fun _ _ property hproperty hname => absurd hname (h property hproperty)

lemma OwnNames.required_or_eq_nil (h : OwnNames options api s) (hsound : Sound options api lossy r)
    (hpointer : s.pointer = none) (hshape : s.shape = some .object) {bodies : List (List Stmt)}
    (hbodies : ∀ x ∈ s.properties.zip bodies,
      Emits options lossy r x.1.2 (.property target x.1.1) x.2) :
    ∀ x ∈ s.properties.zip bodies, x.1.1 ∈ inheritedNames → x.1.1 ∈ s.required ∨ x.2 = [] := by
  intro x hx hname
  refine (h hpointer hshape x.1 (List.of_mem_zip hx).1 hname).imp id fun hblank => ?_
  exact hsound.emits_eq_nil hblank (hbodies x hx)

/-- A blank leaf is not to be restored. -/
lemma Blank.of_leaf (h : Blank options api False s) (hpointer : s.pointer = none)
    (hitems : s.items = []) : ¬ IsDate options s ∧ ¬ IsBigint options s := by
  cases h with
  | lost h => exact h.elim
  | foreign hp | component hp => simp [hpointer] at hp
  | noElement _ hs | object _ hs =>
    exact ⟨fun hdate => by simp [hdate.2.1] at hs, fun hbigint => by simp [hbigint.2.1] at hs⟩
  | array _ _ hitems' => simp [hitems] at hitems'
  | fixed _ hs =>
    exact ⟨fun hdate => by simp [hdate.2.1] at hs, fun hbigint => by simp [hbigint.2.1] at hs⟩
  | leaf _ _ _ hdate hbigint => exact ⟨hdate, hbigint⟩
  | composition _ _ hne | union _ _ hne => exact absurd hitems hne

/-- Where a schema is blank, nothing has to be restored. -/
lemma Restores.eq_ofJson (hsame : Unambiguous options api)
    (h : Restores options numberText api.catalog s v w) (hblank : Blank options api False s) :
    w = .ofJson v := by
  induction h with
  | component hpointer hfind _ ih => exact ih (hblank.of_component hsame hpointer hfind)
  | @elements s element rest pairs hpointer hshape hitems _ ih =>
    have helement := hblank.follows hsame (.element hpointer hshape hitems)
    rw [Tree.ofJson, Tree.ofItems_eq, List.map_map]
    exact congrArg Tree.array (List.map_congr_left fun x hx => ih x hx helement)
  | @members s entries hpointer hshape _ _ hother ih =>
    rw [Tree.ofJson, Tree.ofMembers_eq, List.map_map]
    refine congrArg Tree.record (List.map_congr_left fun x hx => Prod.ext rfl ?_)
    by_cases hname : x.1 ∈ s.properties.map Prod.fst
    · obtain ⟨property, hproperty, heq⟩ := List.mem_map.mp hname
      exact ih property hproperty x hx heq.symm
        (hblank.follows hsame (.property hpointer hshape hproperty))
    · exact hother x hx hname
  | whole => rfl
  | leaf hpointer hitems _ _ _ hrevives =>
    obtain ⟨hdate, hbigint⟩ := hblank.of_leaf hpointer hitems
    cases hrevives with
    | date h => exact absurd h hdate
    | bigint h => exact absurd h hbigint
    | same => rfl
  | null => rfl
  | present hpointer hnullable _ _ ih =>
    exact ih (hblank.follows hsame (hnullable.follows hpointer))

end OpenApiTypes.Transformers
