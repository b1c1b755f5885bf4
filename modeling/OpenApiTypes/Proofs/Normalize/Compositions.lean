/-
The members of compositions.

* `Model.Schema.OccursIn`: a schema is another one or occurs among its items at some depth;
* `Spec.Schema.combined`: the list of members that a schema combines. A conjunction comes before a
  union of exactly one, and that before a union of any;
* `Normalize.occursIn_position`: a member of this list occurs in the schema, unless it is the only
  one, in which case the schema is that member with annotations of its own;
* `Normalize.exists_dropped`: of the other lists nothing may be left, and nothing is said of it.
-/
import OpenApiTypes.Proofs.Normalize.WellFormed

namespace OpenApiTypes

/-! ### Occurrence -/

namespace Model.Schema

/-- A schema is another one, or occurs among its items at some depth. -/
inductive OccursIn (t : Schema) : Schema → Prop where
  | self : OccursIn t t
  | item {s i : Schema} (mem : i ∈ s.items) (deep : OccursIn t i) : OccursIn t s

/-- A schema occurs in one of the items of another one. -/
def OccursBelow (t s : Schema) : Prop := ∃ i ∈ s.items, t.OccursIn i

variable {s t : Schema} {items : List Schema}

lemma OccursBelow.occursIn (h : t.OccursBelow s) : t.OccursIn s := by
  obtain ⟨i, hi, ht⟩ := h
  exact .item hi ht

/-- One of several items stays an item. -/
lemma occursBelow_composed (hitems : 2 ≤ items.length) {i : Schema} (hi : i ∈ items)
    (ht : t.OccursIn i) (operator : Operator) : t.OccursBelow (composed items operator) := by
  have hcomposed : composed items operator = ({} : Schema).setItems items operator := by
    unfold composed
    split
    · simp at hitems
    · rfl
  rw [hcomposed]
  exact ⟨i, hi, ht⟩

/-- A union with null keeps what is below it. -/
lemma OccursBelow.orNull (h : t.OccursBelow s) : t.OccursBelow s.orNull := by
  obtain ⟨i, hi, ht⟩ := h
  rw [Schema.orNull]
  split
  · exact ⟨i, hi, ht⟩
  split
  · exact ⟨i, List.mem_append_left _ hi, ht⟩
  · exact ⟨s.undocumented, List.mem_cons_self, .item hi ht⟩

end Model.Schema

/-! ### Members -/

namespace Spec.Schema

/-- The members that a schema combines, and where they stand: those of its conjunction if it has
any, otherwise those of one of its unions. -/
def combined (s : Schema) : String × List (Position Schema) :=
  if !s.allOf.isEmpty then ("/allOf/", s.allOf)
  else if !s.oneOf.isEmpty then ("/oneOf/", s.oneOf)
  else ("/anyOf/", s.anyOf)

end Spec.Schema

namespace Normalize

open OpenApiTypes.Model

variable {scope : Scope} {inlining : Inlining} {s : Spec.Schema} {location : String}

lemma getElem?_positions (ps : List (Spec.Position Spec.Schema)) (location : String)
    (index i : Nat) :
    (positions scope inlining ps location index).value[i]?
      = ps[i]?.map fun p =>
        (position scope inlining p (location ++ toString (index + i))).value := by
  induction ps generalizing index i with
  | nil => simp [positions]
  | cons p rest ih =>
    rw [positions]
    cases i with
    | zero => simp
    | succ i =>
      have hindex : index + (i + 1) = index + 1 + i := by omega
      simp only [Reported.value_bind, Reported.value_pure, List.getElem?_cons_succ, ih, hindex]

lemma length_positions (ps : List (Spec.Position Spec.Schema)) (location : String)
    (index : Nat) : (positions scope inlining ps location index).value.length = ps.length := by
  induction ps generalizing index with
  | nil => simp [positions]
  | cons p rest ih =>
    rw [positions]
    simp [ih]

/-- The converted members of a combined list. -/
lemma value_body_of_combined (hconst : s.constValue = none) (henum : s.enumValues = [])
    (hcombined : s.combined.2 ≠ []) {m : Members} (hm : m = membersOf scope inlining s location) :
    let members :=
      (positions scope inlining s.combined.2 (location ++ s.combined.1) 0).value
    let own := (ownStructure s m).value
    (body s location m).value = Schema.composed (members ++ own) .and
      ∨ (body s location m).value = Schema.composed (Schema.composed members .or :: own) .and := by
  subst hm
  intro members own
  by_cases hallOf : s.allOf = []
  · have hunion : s.oneOf ≠ [] ∨ s.anyOf ≠ [] := by
      by_contra hnone
      push Not at hnone
      simp [Spec.Schema.combined, hallOf, hnone] at hcombined
    right
    by_cases honeOf : s.oneOf = []
    · have hanyOf : s.anyOf ≠ [] := hunion.resolve_left fun h => h honeOf
      simp [body, hconst, henum, hallOf, honeOf, hanyOf, members, own, Spec.Schema.combined,
        membersOf]
    · simp [body, hconst, henum, hallOf, honeOf, members, own, Spec.Schema.combined, membersOf]
  · left
    simp [body, hconst, henum, hallOf, members, own, Spec.Schema.combined, membersOf]

/-- A member occurs below the combination, unless there is nothing but this member. -/
lemma occursBelow_or_eq {members own : List Schema} {t : Schema} (ht : t ∈ members) {b : Schema}
    (hb : b = Schema.composed (members ++ own) .and
      ∨ b = Schema.composed (Schema.composed members .or :: own) .and) :
    t.OccursBelow b ∨ (members = [t] ∧ own = [] ∧ b = t) := by
  have hmember : 2 ≤ members.length ∨ members = [t] := by
    rcases members with _ | ⟨first, _ | ⟨second, rest⟩⟩
    · simp at ht
    · exact .inr (by rw [List.mem_singleton.mp ht])
    · exact .inl (by simp)
  rcases hb with rfl | rfl
  · -- A conjunction holds its members and the properties side by side.
    rcases hmember with hmany | rfl
    · refine .inl (Schema.occursBelow_composed ?_ (List.mem_append_left own ht) .self .and)
      rw [List.length_append]
      omega
    · rcases own with _ | ⟨first, rest⟩
      · exact .inr ⟨rfl, rfl, rfl⟩
      · exact .inl (Schema.occursBelow_composed (by simp) (List.mem_append_left _ ht) .self .and)
  · -- A union stands beside the properties, and without them for itself.
    have hunion : t.OccursBelow (Schema.composed members .or)
        ∨ (members = [t] ∧ Schema.composed members .or = t) := by
      rcases hmember with hmany | rfl
      · exact .inl (Schema.occursBelow_composed hmany ht .self .or)
      · exact .inr ⟨rfl, rfl⟩
    rcases own with _ | ⟨first, rest⟩
    · rcases hunion with hbelow | ⟨hone, heq⟩
      · exact .inl hbelow
      · exact .inr ⟨hone, rfl, heq⟩
    · refine .inl (Schema.occursBelow_composed (by simp) List.mem_cons_self ?_ .and)
      rcases hunion with hbelow | ⟨-, heq⟩
      · exact hbelow.occursIn
      · rw [heq]
        exact .self

/-- A member of the combined list occurs in the schema. If it is the only one and there are no
properties beside it, the schema is that member itself, with annotations laid over its own and with
null if there is to be null. -/
theorem occursIn_position (scope : Scope) (inlining : Inlining) (location : String)
    (hconst : s.constValue = none) (henum : s.enumValues = []) {i : Nat}
    {p : Spec.Position Spec.Schema} (hp : s.combined.2[i]? = some p) :
    let member :=
      (position scope inlining p (location ++ s.combined.1 ++ toString i)).value
    let whole := (position scope inlining (.inline s) location).value
    member.OccursIn whole
      ∨ (s.combined.2 = [p] ∧ s.properties = []
        ∧ whole = if s.nullable then (document s.annotations member).orNull
          else document s.annotations member) := by
  intro member whole
  have hcombined : s.combined.2 ≠ [] := by
    intro hnil
    simp [hnil] at hp
  have hmember : member ∈
      (positions scope inlining s.combined.2 (location ++ s.combined.1) 0).value := by
    refine List.mem_of_getElem? (i := i) ?_
    rw [getElem?_positions, hp, Nat.zero_add]
    rfl
  have hwhole : whole = if s.nullable then
        (document s.annotations
          (body s location (membersOf scope inlining s location)).value).orNull
      else document s.annotations
        (body s location (membersOf scope inlining s location)).value := by
    have hinline := position_inline scope inlining s location
    simp only [whole, hinline, assemble, Reported.value_bind, Reported.value_pure]
  rcases occursBelow_or_eq hmember (value_body_of_combined hconst henum hcombined rfl) with
    hbelow | ⟨hone, hown, heq⟩
  · have hdocumented : member.OccursBelow (document s.annotations
        (body s location (membersOf scope inlining s location)).value) := hbelow
    refine .inl ?_
    rw [hwhole]
    split
    · exact hdocumented.orNull.occursIn
    · exact hdocumented.occursIn
  · refine .inr ⟨?_, ?_, ?_⟩
    · have hlength :
          (positions scope inlining s.combined.2 (location ++ s.combined.1) 0).value.length
            = s.combined.2.length := length_positions _ _ _
      rw [hone] at hlength
      obtain ⟨q, hq⟩ := List.length_eq_one_iff.mp hlength.symm
      have hmem := List.mem_of_getElem? hp
      rw [hq] at hmem ⊢
      rw [List.mem_singleton.mp hmem]
    · by_contra hproperties
      simp [ownStructure, hproperties] at hown
    · rw [hwhole, heq]

/-- A labelled number or text that may be null: a union beside properties. -/
def labelled : Spec.Schema where
  nullable := true
  properties := [("label", .inline { types := some (.single .string) })]
  oneOf := [.inline { types := some (.single .number) },
    .inline { types := some (.single .string) }]

theorem occursIn_position_labelled :
    labelled.constValue = none ∧ labelled.enumValues = []
      ∧ labelled.combined.2[1]? = some (.inline { types := some (.single .string) })
      ∧ (position ⟨.null, [], []⟩ ⟨[], []⟩ (.inline { types := some (.single .string) })
          ("" ++ labelled.combined.1 ++ toString 1)).value.OccursIn
        (position ⟨.null, [], []⟩ ⟨[], []⟩ (.inline labelled) "").value := by
  refine ⟨rfl, rfl, rfl, ?_⟩
  have hoccurs := occursIn_position (s := labelled) ⟨.null, [], []⟩ ⟨[], []⟩ "" rfl rfl (i := 1)
    (p := .inline { types := some (.single .string) }) rfl
  refine hoccurs.resolve_right ?_
  rintro ⟨hone, -, -⟩
  exact absurd (congrArg List.length hone) (by decide)

/-! ### Members that are dropped -/

/-- A text in a format. -/
def textIn (format : Option String) : Spec.Schema := { types := some (.single .string), format }

/-- A text that is a date or a moment: a conjunction beside a union. -/
def dateOrMoment : Spec.Schema where
  allOf := [.inline (textIn none)]
  oneOf := [.inline (textIn (some "date")), .inline (textIn (some "date-time"))]

/-- A document of such texts. -/
def dated : Spec.Source := .ofSchemas
  [("Dated", .obj [("allOf", .arr [.obj [("type", .str "string")]]),
    ("oneOf", .arr [.obj [("type", .str "string"), ("format", .str "date")],
      .obj [("type", .str "string"), ("format", .str "date-time")]])])]
  [("Dated", .inline dateOrMoment)]

lemma isRead_dated : dated.IsRead := by
  refine Spec.Source.isRead_ofSchemas (by decide +kernel) ?_
  simp [Json.entries?, Spec.Position.ofJson?, Spec.Schema.ofMembers?, Entries.get?,
    List.lookup_cons, Spec.Position.list?, Spec.Position.listOfItems?]
  rfl

lemma position_textIn (scope : Scope) (inlining : Inlining) (format : Option String)
    (location : String) : position scope inlining (.inline (textIn format)) location
      = ⟨{ shape := some .string, facets := { format } }, []⟩ := by
  rw [position_inline]
  rfl

lemma position_dateOrMoment (scope : Scope) (inlining : Inlining) (location : String) :
    position scope inlining (.inline dateOrMoment) location = ⟨{ shape := some .string }, []⟩ := by
  have hallOf : positions scope inlining dateOrMoment.allOf (location ++ "/allOf/") 0
      = ⟨[{ shape := some .string }], []⟩ := by
    rw [dateOrMoment, positions, position_textIn, positions]
    rfl
  have hbody : body dateOrMoment location (membersOf scope inlining dateOrMoment location)
      = ⟨{ shape := some .string }, []⟩ := by
    calc body dateOrMoment location (membersOf scope inlining dateOrMoment location)
        = (positions scope inlining dateOrMoment.allOf (location ++ "/allOf/") 0 >>= fun items =>
            pure (Schema.composed (items ++ []) .and)) := rfl
      _ = _ := by
        rw [hallOf]
        rfl
  rw [position_inline, assemble, hbody]
  rfl

/-- Beside a conjunction, the members of a union are dropped, and nothing is said of it. What is
left is not even such a member with other annotations or with null. -/
theorem exists_dropped :
    dated.IsRead ∧ (dated.document.components.getD {}).schemas = [("Dated", .inline dateOrMoment)]
      ∧ dateOrMoment.constValue = none ∧ dateOrMoment.enumValues = []
      ∧ ∃ p ∈ dateOrMoment.oneOf, ∃ member whole,
        position (.ofSource dated) (.initial (.ofSource dated)) p
            (Pointer.schema "Dated" ++ "/oneOf/0") = member
          ∧ position (.ofSource dated) (.initial (.ofSource dated)) (.inline dateOrMoment)
            (Pointer.schema "Dated") = whole
          ∧ whole.diagnostics = [] ∧ ¬ member.value.OccursIn whole.value
          ∧ ∀ a, whole.value ≠ document a member.value
            ∧ whole.value ≠ (document a member.value).orNull := by
  refine ⟨isRead_dated, rfl, rfl, rfl, .inline (textIn (some "date")), List.mem_cons_self, _, _,
    position_textIn _ _ _ _, position_dateOrMoment _ _ _, rfl, ?_, fun a => ⟨?_, ?_⟩⟩
  · rintro (_ | ⟨mem, -⟩)
    exact absurd mem List.not_mem_nil
  · intro heq
    exact Option.some_ne_none "date" (congrArg (fun s : Schema => s.facets.format) heq).symm
  · intro heq
    exact Option.some_ne_none Shape.string (congrArg Schema.shape heq)

end Normalize

end OpenApiTypes
