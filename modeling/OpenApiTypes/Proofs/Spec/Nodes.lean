/-
The nodes of documents that differ in the order of their components.

* `Spec.Interchangeable`: values that nothing tells apart that can be read where a pointer leads;
* `Spec.Corresponding`: the nodes of two such documents to which the same keys lead;
* `Spec.Corresponding.interchangeable`: they are such values;
* `Spec.bisimulation_corresponding`, `Spec.Document.Reordered.mem_allPointers`: so references lead
  to corresponding nodes, and the documents refer to the same pointers;
* `Spec.agree_resolve_of_reordered`, `Spec.read_eq_of_reordered`: what a pointer or a chain of
  references leads to is read alike in both documents.
-/
import OpenApiTypes.Proofs.Reference
import OpenApiTypes.Proofs.Spec.Fields
import OpenApiTypes.Proofs.Spec.Reordering

namespace OpenApiTypes.Spec

open Json (SameFields)
open Reference (allPointers memberPointers mem_itemPointers_congr mem_memberPointers
  mem_memberPointers_congr step?)

/-! ### Readers -/

/-- Values that nothing tells apart that can be read where a pointer leads. -/
structure Interchangeable (v w : Json) : Prop where
  target : Reference.target? v = Reference.target? w
  position : Position.ofJson? v = Position.ofJson? w
  parameter : Parameter.ofJson? v = Parameter.ofJson? w
  requestBody : RequestBody.ofJson? v = RequestBody.ofJson? w
  response : Response.ofJson? v = Response.ofJson? w
  pathItem : PathItem.ofJson? v = PathItem.ofJson? w

lemma Interchangeable.refl (v : Json) : Interchangeable v v := ⟨rfl, rfl, rfl, rfl, rfl, rfl⟩

/-- The names under which documents and components hold what may differ. -/
def mapNames : List String := "components" :: Components.maps

variable {ms ns : Entries String Json}

lemma Schema.ofMembers?_congr (hms : ms.keys.Nodup) (hns : ns.keys.Nodup)
    (h : ∀ name ∉ mapNames, ms.get? name = ns.get? name) (s : Schema) :
    s.ofMembers? ms = s.ofMembers? ns := by
  have hfields : ∀ {s' : Schema}, s.HasFields ms s' ↔ s.HasFields ns s' := by
    intro s'
    simp only [hasFields_iff, Bounds.hasFields_iff, Annotations.hasFields_iff, Json.defaulted?, h,
      mapNames, Components.maps, List.mem_cons, List.not_mem_nil, String.reduceEq, or_self,
      not_false_eq_true]
  ext s'
  rw [ofMembers?_eq_some_iff hms, ofMembers?_eq_some_iff hns, hfields]

/-- Objects that differ only under names that are not looked at. A path item has parameters in a
list, so a map of parameters is none. -/
theorem interchangeable_of_get? (hms : ms.keys.Nodup) (hns : ns.keys.Nodup)
    (h : ∀ name ∉ mapNames, ms.get? name = ns.get? name)
    (hparameters : parameters? ms = parameters? ns) : Interchangeable (.obj ms) (.obj ns) where
  target := by
    rw [Reference.target?, Reference.target?, Json.member?, Json.member?, h "$ref" (by decide)]
  position := by
    rw [Position.ofJson?, Position.ofJson?, h "$ref" (by decide), Schema.ofMembers?_congr hms hns h]
  parameter := by
    dsimp only [Parameter.ofJson?, Json.record?, Json.required?, Json.optional?, content?,
      Json.defaulted?, Option.bind_eq_bind, Option.bind_some]
    rw [h "name" (by decide), h "in" (by decide), h "description" (by decide),
      h "required" (by decide), h "deprecated" (by decide), h "schema" (by decide),
      h "content" (by decide), h "style" (by decide), h "explode" (by decide),
      h "allowReserved" (by decide)]
  requestBody := by
    dsimp only [RequestBody.ofJson?, Json.record?, Json.optional?, content?, Json.defaulted?,
      Option.bind_eq_bind, Option.bind_some]
    rw [h "description" (by decide), h "content" (by decide), h "required" (by decide)]
  response := by
    dsimp only [Response.ofJson?, Json.record?, content?, Json.defaulted?, Option.bind_eq_bind,
      Option.bind_some]
    rw [h "description" (by decide), h "content" (by decide)]
  pathItem := by
    dsimp only [PathItem.ofJson?, Json.record?, Json.optional?, servers?, Json.defaulted?,
      Option.bind_eq_bind, Option.bind_some]
    rw [hparameters, h "$ref" (by decide), h "servers" (by decide), h "get" (by decide),
      h "put" (by decide), h "post" (by decide), h "delete" (by decide), h "options" (by decide),
      h "head" (by decide), h "patch" (by decide), h "trace" (by decide)]

/-! ### Nodes -/

/-- The nodes of two such documents to which the same keys lead. Below a map of components these are
the same. -/
inductive Corresponding : Json → Json → Prop where
  | same (v : Json) : Corresponding v v
  | map {ms ns : Entries String Json} (hnodup : ms.keys.Nodup) (h : ms.Perm ns) :
      Corresponding (.obj ms) (.obj ns)
  | components {v w : Json} {c : Components} (hv : v.DistinctKeys)
      (hread : Components.ofJson? v = some c) (h : Components.Reordered v w) : Corresponding v w
  | document {v w : Json} {d : Document} (hv : v.DistinctKeys)
      (hread : Document.ofJson? v = some d) (h : Document.Reordered v w) : Corresponding v w

lemma Corresponding.of_reordered {v w : Json} (hv : v.DistinctKeys) (h : Json.Reordered v w) :
    Corresponding v w := by
  cases h with
  | refl => exact .same v
  | members h => exact .map hv.members.nodup h

lemma forall₂_corresponding {vs ws : List Json} (hvs : ∀ v ∈ vs, v.DistinctKeys)
    (h : List.Forall₂ Json.Reordered vs ws) : List.Forall₂ Corresponding vs ws :=
  ((List.forall₂_and_left ..).mpr ⟨hvs, h⟩).imp fun _ _ h => .of_reordered h.1 h.2

/-! ### Keys -/

lemma rel_getElem? {r : Json → Json → Prop} {vs ws : List Json} (h : List.Forall₂ r vs ws)
    (i : Nat) : Option.Rel r vs[i]? ws[i]? := by
  induction h generalizing i with
  | nil => exact .none
  | cons h _ ih =>
    cases i with
    | zero => exact .some h
    | succ i => exact ih i

/-- What a document has as its components are components. -/
lemma Document.exists_components_of_get? {ms : Entries String Json} {d : Document}
    (hd : Document.ofJson? (.obj ms) = some d) {v w : Json} (hv : ms.get? "components" = some v)
    (h : Components.Reordered v w) : ∃ c, Components.ofJson? v = some c := by
  simp only [ofJson?, Json.record?, ↓Json.bind_eq_some_iff] at hd
  obtain ⟨_, hfields, _, -, _, -, _, -, _, -, _, -, components, hcomponents, -⟩ := hd
  obtain rfl := Option.some.inj hfields
  rw [Json.optional?, hv] at hcomponents
  dsimp only at hcomponents
  rw [h.nullable?_eq.1] at hcomponents
  obtain ⟨c, hc, -⟩ := Option.map_eq_some_iff.mp hcomponents
  exact ⟨c, hc⟩

/-- The same key leads on from corresponding nodes to such nodes. -/
lemma Corresponding.step {v w : Json} (h : Corresponding v w) (key : String) :
    Option.Rel Corresponding (step? key v) (step? key w) := by
  have hsame : ∀ next : Option Json, Option.Rel Corresponding next next := by
    rintro (_ | next)
    · exact .none
    · exact .some (.same next)
  cases h with
  | same => exact hsame _
  | map hnodup h =>
    rw [step?, step?, Entries.get?_eq_of_perm h hnodup]
    exact hsame _
  | components hv hread h =>
    cases h with
    | object h =>
      rw [step?, step?]
      rcases h.get? key with hget | ⟨-, v, w, hv', hw', hr⟩
      · rw [hget]
        exact hsame _
      · rw [hv', hw']
        exact .some (.of_reordered (Json.DistinctKeys.of_get? hv.members hv') hr)
    | array h _ rest =>
      rw [step?, step?]
      cases Reference.position? key with
      | none => exact .none
      | some i =>
        cases hv with
        | arr hitems =>
          refine rel_getElem? (List.rel_append ?_ ?_) i
          · exact forall₂_corresponding (fun v hv => hitems v (List.mem_append_left _ hv)) h
          · exact List.forall₂_same.mpr fun v _ => .same v
  | document hv hread h =>
    cases h with
    | object h =>
      rw [step?, step?]
      rcases h.get? key with hget | ⟨hkey, v, w, hv', hw', hr⟩
      · rw [hget]
        exact hsame _
      · obtain rfl : key = "components" := by simpa using hkey
        rw [hv', hw']
        obtain ⟨c, hc⟩ := Document.exists_components_of_get? hread hv' hr
        exact .some (.components (Json.DistinctKeys.of_get? hv.members hv') hc hr)

/-! ### Reading -/

/-- An array of components is nothing else that a pointer could lead to, unless it is empty: its
first item is a map. -/
lemma unread_of_components {items : List Json} {c : Components}
    (hc : Components.ofJson? (.arr items) = some c) (hitems : items ≠ []) :
    Parameter.ofJson? (.arr items) = none ∧ RequestBody.ofJson? (.arr items) = none
      ∧ Response.ofJson? (.arr items) = none ∧ PathItem.ofJson? (.arr items) = none := by
  obtain ⟨v, rest, rfl⟩ := List.exists_cons_of_ne_nil hitems
  obtain ⟨fields, hfields, hc⟩ := Option.bind_eq_some_iff.mp hc
  obtain ⟨schemas, hschemas, -⟩ := Option.bind_eq_some_iff.mp hc
  rw [Json.defaulted?, Json.get?_of_record? hfields] at hschemas
  obtain ⟨members, rfl⟩ : ∃ members, v = .obj members := by
    cases v with
    | obj members => exact ⟨members, rfl⟩
    | null | bool | number | str | arr => cases hschemas
  rw [Json.record?] at hfields
  split_ifs at hfields with hlength
  simp only [List.length_cons, List.length_nil] at hlength
  have hmany : ∀ (names : List String) (least : Nat), 5 < least →
      Json.record? names least (.arr (.obj members :: rest)) = none := by
    intro names least hleast
    rw [Json.record?, if_neg (by simp; omega)]
  -- In bodies and responses the object stands in the place of the description, which is a text.
  refine ⟨?_, ?_, ?_, ?_⟩
  · rw [Parameter.ofJson?, hmany _ 9 (by decide)]
    rfl
  · refine Option.eq_none_iff_forall_ne_some.mpr fun body hbody => ?_
    obtain ⟨fields, hfields, hbody⟩ := Option.bind_eq_some_iff.mp hbody
    obtain ⟨description, hdescription, -⟩ := Option.bind_eq_some_iff.mp hbody
    rw [Json.optional?, Json.get?_of_record? hfields] at hdescription
    cases hdescription
  · refine Option.eq_none_iff_forall_ne_some.mpr fun response hresponse => ?_
    obtain ⟨fields, hfields, hresponse⟩ := Option.bind_eq_some_iff.mp hresponse
    obtain ⟨description, hdescription, -⟩ := Option.bind_eq_some_iff.mp hresponse
    rw [Json.defaulted?, Json.get?_of_record? hfields] at hdescription
    cases hdescription
  · rw [PathItem.ofJson?, hmany _ 11 (by decide)]
    rfl

/-- Corresponding nodes are read alike. -/
lemma Corresponding.interchangeable {v w : Json} (h : Corresponding v w) :
    Interchangeable v w := by
  cases h with
  | same => exact .refl v
  | @map ms ns hnodup h =>
    have hget := Entries.get?_eq_of_perm h hnodup
    have hnodup' : ns.keys.Nodup := (h.map Prod.fst).nodup_iff.mp hnodup
    refine interchangeable_of_get? hnodup hnodup' (fun name _ => congrFun hget name) ?_
    rw [parameters?, parameters?, Json.defaulted?, Json.defaulted?, hget]
  | components hv hread h =>
    cases h with
    | @object ms ns h =>
      have hnodup := hv.members.nodup
      refine interchangeable_of_get? hnodup (h.keys ▸ hnodup) (fun name hname =>
        h.get?_of_notMem fun hmem => hname (List.mem_cons_of_mem _ hmem)) ?_
      rw [parameters?, parameters?, Json.defaulted?, Json.defaulted?]
      rcases h.get? "parameters" with hget | ⟨-, v, w, hv', hw', hr⟩
      · rw [hget]
      · rw [hv', hw']
        exact hr.list?_eq
    | @array vs ws h hlength rest =>
      by_cases hempty : vs ++ rest = []
      · obtain ⟨rfl, rfl⟩ := List.append_eq_nil_iff.mp hempty
        cases h
        exact .refl _
      · obtain ⟨c', hread', -⟩ :=
          Components.Reordered.exists_ofJson? (.array h hlength rest) hread
        have hempty' : ws ++ rest ≠ [] := by
          simpa [List.append_eq_nil_iff, ← List.length_eq_zero_iff, h.length_eq] using hempty
        obtain ⟨hparameter, hbody, hresponse, hitem⟩ := unread_of_components hread hempty
        obtain ⟨hparameter', hbody', hresponse', hitem'⟩ := unread_of_components hread' hempty'
        exact ⟨rfl, by simp [Position.ofJson?], by rw [hparameter, hparameter'],
          by rw [hbody, hbody'], by rw [hresponse, hresponse'], by rw [hitem, hitem']⟩
  | document hv hread h =>
    cases h with
    | @object ms ns h =>
      have hnodup := hv.members.nodup
      exact interchangeable_of_get? hnodup (h.keys ▸ hnodup) (fun name hname =>
        h.get?_of_notMem fun hmem => hname (List.mem_singleton.mp hmem ▸ by decide))
        (h.defaulted?_eq (by decide) _)

theorem bisimulation_corresponding : Reference.Bisimulation Corresponding where
  step key h := h.step key
  target h := h.interchangeable.target

/-! ### All pointers -/

lemma mem_allPointers_of_sameFields {names : List String} {r : Json → Json → Prop}
    {ms ns : Entries String Json} (h : SameFields names r ms ns) (href : "$ref" ∉ names)
    {p : String} (hr : ∀ m ∈ ms, ∀ w, r m.2 w → (p ∈ allPointers m.2 ↔ p ∈ allPointers w)) :
    p ∈ allPointers (.obj ms) ↔ p ∈ allPointers (.obj ns) := by
  have htarget : Reference.target? (.obj ms) = Reference.target? (.obj ns) := by
    simp only [Reference.target?, Json.member?, h.get?_of_notMem href]
  have hmembers : p ∈ memberPointers ms ↔ p ∈ memberPointers ns := by
    refine mem_memberPointers_congr (((List.forall₂_and_left ..).mpr ⟨hr, h⟩).imp ?_)
    rintro f g ⟨hf, -, hvalue⟩
    rcases hvalue with hvalue | ⟨-, hvalue⟩
    · rw [hvalue]
    · exact hf g.2 hvalue
  rw [allPointers, allPointers, List.mem_append, List.mem_append, htarget, hmembers]

lemma mem_allPointers_of_reordered {v w : Json} (hv : v.DistinctKeys) (h : Json.Reordered v w)
    (p : String) : p ∈ allPointers v ↔ p ∈ allPointers w := by
  cases h with
  | refl => rfl
  | @members ms ns h =>
    have htarget := (Corresponding.map hv.members.nodup h).interchangeable.target
    rw [allPointers, allPointers, List.mem_append, List.mem_append, htarget, mem_memberPointers,
      mem_memberPointers]
    simp only [h.mem_iff]

lemma Components.Reordered.mem_allPointers {v w : Json} (h : Components.Reordered v w)
    (hv : v.DistinctKeys) (p : String) : p ∈ allPointers v ↔ p ∈ allPointers w := by
  cases h with
  | object h =>
    exact mem_allPointers_of_sameFields h (by decide) fun m hm w hr =>
      mem_allPointers_of_reordered (hv.members.values m hm) hr p
  | @array vs ws h _ rest =>
    cases hv with
    | arr hitems =>
      rw [allPointers, allPointers]
      refine mem_itemPointers_congr (List.rel_append ?_ (List.forall₂_same.mpr fun _ _ => .rfl))
      refine ((List.forall₂_and_left ..).mpr ⟨?_, h⟩).imp fun v w hvw =>
        mem_allPointers_of_reordered hvw.1 hvw.2 p
      exact fun v hv => hitems v (List.mem_append_left _ hv)

/-- Two such documents refer to the same pointers. -/
lemma Document.Reordered.mem_allPointers {v w : Json} (h : Document.Reordered v w)
    (hv : v.DistinctKeys) (p : String) : p ∈ allPointers v ↔ p ∈ allPointers w := by
  cases h with
  | object h =>
    exact mem_allPointers_of_sameFields h (by decide) fun m hm w hr =>
      hr.mem_allPointers (hv.members.values m hm) p

/-! ### References -/

section

variable {source source' : Source} (h : source.Reordered source') (pointer : String)

include h

/-- A pointer leads to nodes that are read alike. -/
theorem agree_resolve_of_reordered :
    Agree Interchangeable (Reference.resolve source.tree pointer)
      (Reference.resolve source'.tree pointer) :=
  (Reference.agree_resolve bisimulation_corresponding (.document h.distinctKeys h.read h.tree)
    pointer).imp fun _ _ hvw => hvw.interchangeable

/-- What a chain of references ends at is read alike. -/
theorem read_eq_of_reordered {α : Type} {read? : Json → Option α}
    (hr : ∀ v w, Interchangeable v w → read? v = read? w) :
    Reference.read read? source.tree pointer = Reference.read read? source'.tree pointer :=
  Reference.read_eq bisimulation_corresponding (.document h.distinctKeys h.read h.tree)
    (h.tree.mem_allPointers h.distinctKeys) (fun v w hvw => hr v w hvw.interchangeable) pointer

end

end OpenApiTypes.Spec
