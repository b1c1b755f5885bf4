/-
Named members beside members under any other key.

* `Types.mem_alternatives_indexType`: the alternatives of the type of the other members are those of
  the named ones, `undefined` if one of these may be missing, and its own;
* `Types.gives_object`: the members of an object type and the type of the others, under the names
  that were given for both;
* `Types.mem_alternatives_of_typeOf`: **whatever a named member may be, a member under any other key
  may be as well**, and nothing else but what the schema says of those.
-/
import OpenApiTypes.Proofs.Types.Nullable

namespace OpenApiTypes.Types

open OpenApiTypes.Model
open OpenApiTypes.Output (Registry)
open OpenApiTypes.TypeScript (Property TypeExpr)

variable {conversions : Conversions} {s additional : Schema} {t : TypeExpr}

/-! ### The type of other members -/

/-- The alternatives of the type of members without a name of their own, beside some that have
one. -/
lemma mem_alternatives_indexType {ps : List (Property TypeExpr)} {a : TypeExpr}
    (hps : ∀ p ∈ ps, p.type.Flat) (ha : a.Flat) (hne : ps ≠ []) :
    t ∈ (indexType ps a).alternatives ↔ (∃ p ∈ ps, t ∈ p.type.alternatives)
      ∨ (t = .keyword .undefined ∧ ∃ p ∈ ps, p.optional = true) ∨ t ∈ a.alternatives := by
  have hundefined : (TypeExpr.keyword .undefined).Flat := .other rfl rfl
  rw [indexType, if_neg (by simpa using hne)]
  dsimp only
  rw [TypeScript.mem_alternatives_unionOf]
  · split_ifs with hmissing
    · have hoptional : ∃ p ∈ ps, p.optional = true := by simpa using hmissing
      simp [or_and_right, exists_or, TypeExpr.alternatives, hoptional]
    · have hoptional : ¬ ∃ p ∈ ps, p.optional = true := by simpa using hmissing
      simp [or_and_right, exists_or, hoptional]
  · intro u hu
    split_ifs at hu <;> simp only [List.mem_append, List.mem_map, List.mem_singleton] at hu
    · rcases hu with (⟨p, hp, rfl⟩ | rfl) | rfl
      exacts [hps p hp, hundefined, ha]
    · rcases hu with (⟨p, hp, rfl⟩ | hu) | rfl
      exacts [hps p hp, absurd hu List.not_mem_nil, ha]
  · simp

/-! ### Object types -/

/-- The type of an object: its members, and the type of the others unless there can be none. -/
lemma gives_object (conversions : Conversions) (hopen : IsOpen s)
    (hshape : s.shape = some .object) :
    Gives (typeOf conversions s) fun r t =>
      let ps := s.properties.map (propertyUnder conversions r s.required)
      t = .object ps (((s.additionalProperties.filter fun a => !a.hasShape .never).map
        (typeUnder conversions r)).map (indexType ps)) := by
  obtain ⟨hpointer, hvalue⟩ := hopen
  obtain ⟨pointer, shape, properties, required, additionalProperties, items, operator?, facets,
    constValue, documentation⟩ := s
  subst hpointer hvalue hshape
  rw [typeOf.eq_def]
  refine (gives_propertiesUnder conversions required properties).bind fun ps =>
    (gives_additionalUnder conversions additionalProperties).bind fun rest =>
      .pure fun r hrest hps => ?_
  rw [hps, hrest]

/-- A schema becomes an object type only if nothing but its shape says what it is. -/
lemma isOpen_of_typeOf {r : Registry} {ps : List (Property TypeExpr)} {index? : Option TypeExpr}
    (h : typeUnder conversions r s = .object ps index?) : IsOpen s := by
  obtain ⟨pointer, shape, properties, required, additionalProperties, items, operator?, facets,
    constValue, documentation⟩ := s
  rw [typeUnder, typeOf.eq_def] at h
  cases pointer with
  | some pointer =>
    dsimp only at h
    rw [run_referenceType] at h
    cases hname : (r.request pointer .type fileId true).1.name? <;>
      simp [hname, TypeScript.named] at h
  | none =>
    cases constValue with
    | some value => cases value <;> simp [constantType] at h
    | none => exact ⟨rfl, rfl⟩

/-- The type of an object schema is an object type exactly if the schema stands for no component
and no constant. **A member under any other key may be whatever one of the named members may be**,
`undefined` if one of these may be missing, whatever the schema says of such members, and nothing
else. -/
theorem mem_alternatives_of_typeOf {r r' : Registry} {given : TypeExpr}
    (hrun : (typeOf conversions s).run r = (given, r')) (hshape : s.shape = some .object)
    (hproperties : s.properties ≠ []) (hadditional : s.additionalProperties = some additional)
    (hnever : additional.hasShape .never = false) :
    ((∃ ps index?, given = .object ps index?) ↔ s.pointer = none ∧ s.constValue = none)
      ∧ ∀ ps index?, given = .object ps index? →
        ps = s.properties.map (propertyUnder conversions r' s.required)
          ∧ ∃ index, index? = some index ∧ (∀ t ∈ index.alternatives, t.isUnion = false)
            ∧ ∀ t, t ∈ index.alternatives ↔ (∃ p ∈ ps, t ∈ p.type.alternatives)
              ∨ (t = .keyword .undefined ∧ ∃ p ∈ ps, p.optional = true)
              ∨ t ∈ (typeUnder conversions r' additional).alternatives := by
  have hgiven : typeUnder conversions r s = given := congrArg Prod.fst hrun
  set members := s.properties.map (propertyUnder conversions r' s.required)
  have hobject : IsOpen s → given = .object members
      (some (indexType members (typeUnder conversions r' additional))) := by
    intro hopen
    have htype := (gives_object conversions hopen hshape r).2 r' (by rw [hrun]; exact .refl _)
    rw [hrun] at htype
    simpa [hadditional, Option.filter, hnever] using htype
  refine ⟨⟨fun ⟨ps, index?, h⟩ => ?_, fun h => ⟨_, _, hobject ⟨h.1, h.2⟩⟩⟩, fun ps index? h => ?_⟩
  · have hopen := isOpen_of_typeOf (hgiven.trans h)
    exact ⟨hopen.pointer, hopen.constValue⟩
  obtain ⟨rfl, rfl⟩ := TypeExpr.object.inj
    ((hobject (isOpen_of_typeOf (hgiven.trans h))).symm.trans h)
  have hmembers : ∀ p ∈ members, p.type.Flat := by
    intro p hp
    obtain ⟨x, -, rfl⟩ := List.mem_map.mp hp
    exact flat_typeUnder conversions r' x.2
  have hothers := flat_typeUnder conversions r' additional
  have hmem : ∀ t, t ∈ (indexType members (typeUnder conversions r' additional)).alternatives ↔ _ :=
    fun t => mem_alternatives_indexType hmembers hothers (by simpa [members] using hproperties)
  refine ⟨rfl, _, rfl, fun t ht => ?_, hmem⟩
  rcases (hmem t).mp ht with ⟨p, hp, ht⟩ | ⟨rfl, -⟩ | ht
  · exact (hmembers p hp).isUnion_of_mem_alternatives ht
  · rfl
  · exact hothers.isUnion_of_mem_alternatives ht

/-- A file with a note that may be missing, and texts or nulls under all other keys. -/
def labelledFile : Schema where
  shape := some .object
  properties := [("content", { shape := some .string, facets := { format := some "binary" } }),
    ("note", .reference (Pointer.schema "Note"))]
  required := ["content", "size"]
  additionalProperties := some (Schema.composed [.ofShape .string, .ofShape .null] .or)

/-- The members of its type. -/
def labelledFileMembers : List (Property TypeExpr) :=
  [{ name := "content", type := .union [.reference "Blob" [], .reference "File" []] },
    { name := "note", optional := true, type := .reference "Note" [] }]

/-- What may stand under any other key. -/
def labelledFileIndex : TypeExpr :=
  .union [.reference "Blob" [], .reference "File" [], .reference "Note" [], .keyword .undefined,
    .keyword .string, .keyword .null]

theorem mem_alternatives_of_typeOf_labelledFile : ∃ r',
    (typeOf {} labelledFile).run [] = (.object labelledFileMembers (some labelledFileIndex), r')
      ∧ labelledFile.shape = some .object ∧ labelledFile.properties ≠ []
      ∧ labelledFile.additionalProperties
        = some (Schema.composed [.ofShape .string, .ofShape .null] .or)
      ∧ (Schema.composed [.ofShape .string, .ofShape .null] .or).hasShape .never = false
      ∧ labelledFileMembers
        = labelledFile.properties.map (propertyUnder {} r' labelledFile.required)
      ∧ ∀ t, t ∈ labelledFileIndex.alternatives ↔
        (∃ p ∈ labelledFileMembers, t ∈ p.type.alternatives)
          ∨ (t = .keyword .undefined ∧ ∃ p ∈ labelledFileMembers, p.optional = true)
          ∨ t ∈ (typeUnder {} r'
            (Schema.composed [.ofShape .string, .ofShape .null] .or)).alternatives := by
  have htype : ((typeOf {} labelledFile).run []).1
      = .object labelledFileMembers (some labelledFileIndex) := by decide +kernel
  have hrun : (typeOf {} labelledFile).run []
      = (.object labelledFileMembers (some labelledFileIndex),
        ((typeOf {} labelledFile).run []).2) :=
    Prod.ext htype rfl
  obtain ⟨-, hdescribed⟩ := mem_alternatives_of_typeOf hrun rfl (List.cons_ne_nil _ _) rfl rfl
  obtain ⟨hps, index, hindex, -, hmem⟩ := hdescribed _ _ rfl
  obtain rfl := Option.some.inj hindex
  exact ⟨_, hrun, rfl, List.cons_ne_nil _ _, rfl, rfl, hps, hmem⟩

end OpenApiTypes.Types
