/-
Schemas in the spelling of 3.0 and in that of later versions.

* `Spec.Schema.respelled`: a schema without the words that only 3.0 has: null is listed among the
  types, and an exclusive bound is one of its own;
* `Normalize.position_respelled`: a schema of one kind and its later spelling become the same but
  for the place of a default, which stays with the first item of a union with null in 3.0;
* `Normalize.exists_default_inside`: that place does differ.
-/
import OpenApiTypes.Normalize.Document
import OpenApiTypes.Proofs.Normalize.WellFormed
import OpenApiTypes.Types.SchemaType

namespace OpenApiTypes

/-! ### Spellings -/

namespace Spec

/-- Types that null is added to. -/
def Types.orNull : Types → Types
  | single kind => several [kind, .null]
  | several kinds => several (kinds ++ [.null])

/-- The bounds on one side without a flag: one that is set makes the inclusive bound exclusive. -/
def unflagged (inclusive : Option Binary64) :
    Option ExclusiveBound → Option Binary64 × Option ExclusiveBound
  | some (.flag true) => (none, inclusive.map .bound)
  | some (.flag false) => (inclusive, none)
  | some (.bound x) => (inclusive, some (.bound x))
  | none => (inclusive, none)

/-- Constraints without flags. -/
def Bounds.respelled (b : Bounds) : Bounds :=
  { b with
    minimum := (unflagged b.minimum b.exclusiveMinimum).1
    maximum := (unflagged b.maximum b.exclusiveMaximum).1
    exclusiveMinimum := (unflagged b.minimum b.exclusiveMinimum).2
    exclusiveMaximum := (unflagged b.maximum b.exclusiveMaximum).2 }

/-- A schema in the spelling of versions after 3.0: null is listed among the types, and an exclusive
bound is one of its own. -/
def Schema.respelled (s : Schema) : Schema :=
  { s with
    types := if s.nullable then s.types.map Types.orNull else s.types
    nullable := false
    bounds := s.bounds.respelled }

/-- A schema that declares one kind and nothing that comes before it. -/
structure Schema.OfKind (s : Schema) (kind : Kind) : Prop where
  types : s.types = some (.single kind)
  constValue : s.constValue = none
  enumValues : s.enumValues = []
  allOf : s.allOf = []
  oneOf : s.oneOf = []
  anyOf : s.anyOf = []

end Spec

namespace Model.Schema

/-- The schema with the default of its first item in place of its own. -/
def hoistDefault (s : Schema) : Schema :=
  match s.items with
  | [] => s
  | first :: rest =>
    let d := first.documentation
    { s with
      items := { first with documentation := { d with defaultValue := none } } :: rest
      documentation := { s.documentation with defaultValue := d.defaultValue } }

end Model.Schema

/-! ### Types -/

namespace Types

open OpenApiTypes.Model
open OpenApiTypes.Output (Registry)

variable (conversions : Conversions)

/-- What is said about a schema does not count for its type. -/
lemma typeOf_documentation (s : Schema) (d : Documentation) :
    typeOf conversions { s with documentation := d } = typeOf conversions s := by
  cases s
  rw [typeOf.eq_def, typeOf.eq_def]

/-- The type of a union of two. -/
lemma typeOf_pair (s t : Schema) (d : Documentation) :
    typeOf conversions { Schema.composed [s, t] .or with documentation := d } = do
      let first ← typeOf conversions s
      let second ← typeOf conversions t
      return TypeScript.unionOf [first, second] := by
  rw [typeOf_documentation]
  simp [Schema.composed, Schema.setItems, typeOf, typesOf]

end Types

namespace Normalize

open OpenApiTypes.Model

lemma typeOf_document (conversions : Types.Conversions) (a : Spec.Annotations) (s : Schema) :
    Types.typeOf conversions (document a s) = Types.typeOf conversions s :=
  Types.typeOf_documentation conversions s _

/-! ### One kind -/

lemma bounds_unflagged (inclusive : Option Binary64) (exclusive : Option Spec.ExclusiveBound) :
    bounds (Spec.unflagged inclusive exclusive).1 (Spec.unflagged inclusive exclusive).2
      = bounds inclusive exclusive := by
  rcases exclusive with _ | ⟨_ | _⟩ | _ <;> cases inclusive <;> rfl

lemma constrain_respelled (shape : Shape) (s : Spec.Schema) :
    constrain shape s.respelled = constrain shape s := by
  simp only [constrain, Spec.Schema.respelled, Spec.Bounds.respelled, bounds_unflagged]

variable {s : Spec.Schema} {kind : Spec.Kind} {m : Members} {location : String}

lemma ofKind_respelled : ofKind s.respelled location m kind = ofKind s location m kind := by
  cases kind with
  | string | number | integer | boolean => simp only [ofKind, constrain_respelled]
  | array | object | null | unknown => rfl

lemma documentation_ofKind : (ofKind s location m kind).value.documentation = {} := by
  cases kind with
  | array =>
    simp only [ofKind, array]
    split <;> rfl
  | _ => rfl

/-- The schema of a kind has a shape, so a union that takes up null is a new one. -/
lemma isOpenUnion_ofKind : (ofKind s location m kind).value.isOpenUnion = false := by
  cases kind with
  | array =>
    simp only [ofKind, array]
    split <;> rfl
  | _ => rfl

/-! ### Both spellings -/

variable (h : s.OfKind kind)

include h

lemma assemble_ofKind : assemble s location m = do
    let plain ← ofKind s location m kind
    let documented := document s.annotations plain
    return if s.nullable then documented.orNull else documented := by
  have hbody : body s location m = ofKind s location m kind := by
    simp [body, typed, h.constValue, h.enumValues, h.allOf, h.oneOf, h.anyOf, h.types]
  rw [assemble, hbody]

/-- Without null there is no difference. -/
lemma assemble_respelled (hnullable : s.nullable = false) :
    assemble s.respelled location m = assemble s location m := by
  have hbody : body s.respelled location m = ofKind s location m kind := by
    rw [← ofKind_respelled]
    simp [body, typed, Spec.Schema.respelled, h.constValue, h.enumValues, h.allOf, h.oneOf,
      h.anyOf, h.types, hnullable]
  rw [assemble_ofKind h, assemble, hbody, hnullable]
  rfl

/-- In the later spelling a schema becomes a union with null before anything is said about it. -/
lemma assemble_respelled_of_nullable (hnullable : s.nullable = true) :
    assemble s.respelled location m = do
      let plain ← ofKind s location m kind
      return document s.annotations (Schema.composed [plain, Schema.ofShape .null] .or) := by
  have htypes : s.respelled.types = some (.several [kind, .null]) := by
    simp [Spec.Schema.respelled, hnullable, h.types, Spec.Types.orNull]
  have hnull : ofKind s.respelled location m .null = pure (Schema.ofShape .null) := rfl
  have hbody : body s.respelled location m = do
      let plain ← ofKind s location m kind
      return Schema.composed [plain, Schema.ofShape .null] .or := by
    calc body s.respelled location m
        = typed s.respelled location m := by
          simp [body, Spec.Schema.respelled, h.constValue, h.enumValues, h.allOf, h.oneOf, h.anyOf]
      _ = (do
            let items ← [kind, .null].mapM (ofKind s.respelled location m)
            return Schema.composed items .or) := by rw [typed, htypes]
      _ = _ := by simp [hnull, ofKind_respelled]
  rw [assemble, hbody, bind_assoc]
  rfl

/-- The union with null has the title, the description and the like; the default stays inside. -/
lemma value_assemble_of_nullable (hnullable : s.nullable = true)
    (hnull : (ofKind s location m kind).value.admitsNull = false) :
    (assemble s location m).value
      = (Schema.composed [(document s.annotations (ofKind s location m kind).value).undocumented,
          Schema.ofShape .null] .or).documentedAs
            (document s.annotations (ofKind s location m kind).value) := by
  have hunion : (ofKind s location m kind).value.isOpenUnion = false := isOpenUnion_ofKind
  rw [assemble_ofKind h]
  simp only [Reported.value_bind, Reported.value_pure, hnullable, if_true]
  generalize (ofKind s location m kind).value = plain at *
  have hadmits : (document s.annotations plain).admitsNull = false := hnull
  have hopen : (document s.annotations plain).isOpenUnion = false := hunion
  simp only [Schema.orNull, hadmits, hopen, Bool.false_eq_true, if_false]

/-- Both spellings differ in the place of the default only. -/
lemma value_assemble_respelled (hnullable : s.nullable = true)
    (hnull : (ofKind s location m kind).value.admitsNull = false)
    (hexample : s.annotations.example_ = none) :
    (assemble s.respelled location m).value = (assemble s location m).value.hoistDefault
      ∧ (s.annotations.defaultValue = none →
        (assemble s.respelled location m).value = (assemble s location m).value) := by
  have hdocumentation : (ofKind s location m kind).value.documentation = {} :=
    documentation_ofKind
  rw [assemble_respelled_of_nullable h hnullable, value_assemble_of_nullable h hnullable hnull]
  simp only [Reported.value_bind, Reported.value_pure]
  generalize (ofKind s location m kind).value = plain at *
  cases plain
  obtain rfl := hdocumentation
  constructor
  · simp [document, Schema.composed, Schema.setItems, Schema.undocumented, Schema.documentedAs,
      Schema.hoistDefault, hexample, override]
  · intro hdefault
    simp [document, Schema.composed, Schema.setItems, Schema.undocumented, Schema.documentedAs,
      hexample, hdefault, override]

/-- Both spellings have the same type. -/
lemma typeOf_assemble_respelled (conversions : Types.Conversions)
    (hnull : s.nullable = true → kind ≠ .null →
      (ofKind s location m kind).value.admitsNull = false) :
    Types.typeOf conversions (assemble s.respelled location m).value
      = Types.typeOf conversions (assemble s location m).value := by
  cases hnullable : s.nullable with
  | false => rw [assemble_respelled h hnullable]
  | true =>
    have hsince : Types.typeOf conversions (assemble s.respelled location m).value = do
        let first ← Types.typeOf conversions (ofKind s location m kind).value
        let second ← Types.typeOf conversions (Schema.ofShape .null)
        return TypeScript.unionOf [first, second] := by
      rw [assemble_respelled_of_nullable h hnullable]
      exact Types.typeOf_pair conversions _ _ _
    by_cases hkind : kind = .null
    · -- Null itself needs no union: it stays what it is.
      subst hkind
      have hbefore : (assemble s location m).value
          = document s.annotations (Schema.ofShape .null) := by
        rw [assemble_ofKind h, hnullable]
        rfl
      have htype : Types.typeOf conversions (Schema.ofShape .null)
          = pure (.keyword .null) := by simp [Schema.ofShape, Types.typeOf]
      have hvalue : (ofKind s location m .null).value = Schema.ofShape .null := rfl
      have hunion : TypeScript.unionOf [.keyword .null, .keyword .null] = .keyword .null := by
        simp [TypeScript.unionOf, TypeScript.members, TypeScript.addMember,
          TypeScript.TypeExpr.alternatives]
      rw [hsince, hbefore, typeOf_document, hvalue, htype]
      simp only [pure_bind, hunion]
    · have hinner : Types.typeOf conversions
          (document s.annotations (ofKind s location m kind).value).undocumented
            = Types.typeOf conversions (ofKind s location m kind).value :=
        (Types.typeOf_documentation conversions _ _).trans (typeOf_document conversions _ _)
      rw [hsince, value_assemble_of_nullable h hnullable (hnull hnullable hkind), ← hinner]
      exact (Types.typeOf_pair conversions _ _ _).symm

/-- Both spellings give the same warnings. -/
lemma diagnostics_assemble_respelled :
    (assemble s.respelled location m).diagnostics = (assemble s location m).diagnostics := by
  cases hnullable : s.nullable with
  | false => rw [assemble_respelled h hnullable]
  | true =>
    rw [assemble_respelled_of_nullable h hnullable, assemble_ofKind h]
    simp only [Reported.diagnostics_bind, Reported.diagnostics_pure]

omit h in
/-- Nothing but null itself and containers has a part that is null. -/
lemma admitsNull_ofKind (hkind : kind ≠ .null)
    (hitems : ∀ t ∈ (ofKind s location m kind).value.items, t.hasShape .null = false) :
    (ofKind s location m kind).value.admitsNull = false := by
  have hshape : (ofKind s location m kind).value.hasShape .null = false := by
    cases kind with
    | null => exact absurd rfl hkind
    | array =>
      simp only [ofKind, array]
      split <;> rfl
    | _ => rfl
  rw [Schema.admitsNull, hshape, Bool.false_or, List.any_eq_false]
  intro t ht
  rw [hitems t ht]
  exact Bool.false_ne_true

/-- A schema of one kind and its later spelling become the same, with the same warnings, as long as
an array that may be null has no items that are null. Only a default has another place if the schema
may be null: before, it stays with the first item of the union with null. -/
theorem position_respelled (scope : Scope) (inlining : Inlining) (location : String)
    (hitems : s.nullable = true → ∀ t ∈ (position scope inlining
      (.inline { s with nullable := false }) location).value.items, t.hasShape .null = false) :
    let before := position scope inlining (.inline s) location
    let since := position scope inlining (.inline s.respelled) location
    since.diagnostics = before.diagnostics
      ∧ (s.nullable = false → since.value = before.value)
      ∧ (s.nullable = true → kind ≠ .null → s.annotations.example_ = none →
        since.value = before.value.hoistDefault
          ∧ (s.annotations.defaultValue = none → since.value = before.value))
      ∧ ∀ conversions, Types.typeOf conversions since.value
          = Types.typeOf conversions before.value := by
  intro before since
  have hbefore : before = assemble s location (membersOf scope inlining s location) :=
    position_inline scope inlining s location
  have hsince : since = assemble s.respelled location (membersOf scope inlining s location) :=
    position_inline scope inlining s.respelled location
  have hplain : (position scope inlining (.inline { s with nullable := false }) location).value
      = document s.annotations
        (ofKind s location (membersOf scope inlining s location) kind).value := by
    have h' : Spec.Schema.OfKind { s with nullable := false } kind :=
      ⟨h.types, h.constValue, h.enumValues, h.allOf, h.oneOf, h.anyOf⟩
    rw [position_inline, assemble_ofKind h']
    cases kind <;> rfl
  have hnull : s.nullable = true → kind ≠ .null →
      (ofKind s location (membersOf scope inlining s location) kind).value.admitsNull = false := by
    intro hnullable hkind
    refine admitsNull_ofKind hkind fun t ht => hitems hnullable t ?_
    rw [hplain]
    exact ht
  rw [hbefore, hsince]
  refine ⟨diagnostics_assemble_respelled h, fun hnullable => ?_,
    fun hnullable hkind hexample => ?_, fun conversions => ?_⟩
  · rw [assemble_respelled h hnullable]
  · exact value_assemble_respelled h hnullable (hnull hnullable hkind) hexample
  · exact typeOf_assemble_respelled h conversions hnull

omit h

/-- A price in the spelling of 3.0: a number above zero that may be null. -/
def price : Spec.Schema where
  types := some (.single .number)
  nullable := true
  bounds := { minimum := some .zero, exclusiveMinimum := some (.flag true) }
  annotations := { title := some "Price", defaultValue := some (.nat 1) }

theorem position_respelled_price :
    price.OfKind .number ∧ price.nullable = true ∧ price.annotations.example_ = none
      ∧ price.respelled = {
          types := some (.several [.number, .null])
          bounds := { exclusiveMinimum := some (.bound .zero) }
          annotations := { title := some "Price", defaultValue := some (.nat 1) } }
      ∧ (position ⟨.null, [], []⟩ ⟨[], []⟩ (.inline price.respelled) "").value
          = (position ⟨.null, [], []⟩ ⟨[], []⟩ (.inline price) "").value.hoistDefault := by
  have hprice : price.OfKind .number := ⟨rfl, rfl, rfl, rfl, rfl, rfl⟩
  have hitems : price.nullable = true → ∀ t ∈ (position ⟨.null, [], []⟩ ⟨[], []⟩
      (.inline { price with nullable := false }) "").value.items, t.hasShape .null = false := by
    intro _ t ht
    rw [position_inline] at ht
    exact absurd ht List.not_mem_nil
  obtain ⟨-, -, hvalue, -⟩ := position_respelled hprice ⟨.null, [], []⟩ ⟨[], []⟩ "" hitems
  exact ⟨hprice, rfl, rfl, rfl, (hvalue rfl (by decide) rfl).1⟩

/-! ### Defaults -/

/-- A name that may be null and has a default, in both spellings. -/
def twoSpellings : Spec.Source := .ofSchemas
  [("Before", .obj [("type", .str "string"), ("nullable", .bool true), ("default", .str "Rex")]),
    ("Since", .obj [("type", .arr [.str "string", .str "null"]), ("default", .str "Rex")])]
  [("Before", .inline {
      types := some (.single .string)
      nullable := true
      annotations := { defaultValue := some (.str "Rex") } }),
    ("Since", .inline {
      types := some (.several [.string, .null])
      annotations := { defaultValue := some (.str "Rex") } })]

lemma isRead_twoSpellings : twoSpellings.IsRead := by
  have hbefore : Spec.Position.ofJson? (.obj [("type", .str "string"), ("nullable", .bool true),
        ("default", .str "Rex")])
      = some (.inline {
        types := some (.single .string)
        nullable := true
        annotations := { defaultValue := some (.str "Rex") } }) := by
    simp [Spec.Position.ofJson?, Spec.Schema.ofMembers?, Entries.get?, List.lookup_cons]
    rfl
  have hsince : Spec.Position.ofJson? (.obj [("type", .arr [.str "string", .str "null"]),
        ("default", .str "Rex")])
      = some (.inline {
        types := some (.several [.string, .null])
        annotations := { defaultValue := some (.str "Rex") } }) := by
    simp [Spec.Position.ofJson?, Spec.Schema.ofMembers?, Entries.get?, List.lookup_cons]
    rfl
  refine Spec.Source.isRead_ofSchemas (by decide +kernel) ?_
  simp [Json.entries?, hbefore, hsince]

/-- A default stays with the first item of a union with null in one spelling and stands beside the
union in the other. -/
theorem exists_default_inside :
    twoSpellings.IsRead ∧ ∃ s : Spec.Schema, s.OfKind .string ∧ s.nullable = true
      ∧ (twoSpellings.document.components.getD {}).schemas
          = [("Before", .inline s), ("Since", .inline s.respelled)]
      ∧ ∃ r before since, run twoSpellings ⟨.declaredId, [], []⟩ = .ok r
        ∧ r.value.catalog = [("Before", before), ("Since", since)] ∧ before ≠ since := by
  refine ⟨isRead_twoSpellings, _, ⟨rfl, rfl, rfl, rfl, rfl, rfl⟩, rfl, rfl, _, _, _, rfl, rfl,
    fun heq => ?_⟩
  rw [position_inline, position_inline] at heq
  have hdefault : none = some (Json.str "Rex") :=
    congrArg (fun t : Schema => t.documentation.defaultValue) heq
  exact Option.some_ne_none _ hdefault.symm

end Normalize

end OpenApiTypes
