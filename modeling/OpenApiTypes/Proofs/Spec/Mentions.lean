/-
The references that a document mentions.

* `Reference.allPointers_subset_of_within`, `Reference.allPointers_subset_of_resolve`: the pointers
  of a part, and of what a pointer leads to, are pointers of the whole document;
* `Spec.Position.RefersWithin`: a schema all of whose references are certain pointers;
* `Spec.Position.refersWithin_of_ofJson?`: what is read from a node refers to its pointers only.
-/
import OpenApiTypes.Proofs.Reference
import OpenApiTypes.Proofs.Spec.Fields

namespace OpenApiTypes

namespace Reference

/-! ### Pointers of the parts of a document -/

lemma mem_itemPointers {p : String} {items : List Json} :
    p ∈ itemPointers items ↔ ∃ v ∈ items, p ∈ allPointers v := by
  induction items with
  | nil => simp [itemPointers]
  | cons v items ih => simp [itemPointers, ih]

variable {v w tree : Json} {pointer : String}

lemma allPointers_subset_of_item {items : List Json} (hv : v ∈ items) :
    allPointers v ⊆ allPointers (.arr items) := by
  intro p hp
  rw [allPointers]
  exact mem_itemPointers.mpr ⟨v, hv, hp⟩

lemma allPointers_subset_of_member {members : Entries String Json} {m : String × Json}
    (hm : m ∈ members) : allPointers m.2 ⊆ allPointers (.obj members) := by
  intro p hp
  rw [allPointers]
  exact List.mem_append_right _ (mem_memberPointers.mpr ⟨m, hm, hp⟩)

lemma mem_allPointers_of_target? (h : target? v = some pointer) : pointer ∈ allPointers v := by
  cases v with
  | obj members =>
    rw [allPointers, h]
    exact List.mem_append_left _ (by simp)
  | null | bool | number | str | arr => simp [target?, Json.member?] at h

lemma allPointers_subset_of_within (h : v.Within tree) : allPointers v ⊆ allPointers tree := by
  induction h with
  | self => exact List.Subset.refl _
  | item hw _ ih => exact List.Subset.trans ih (allPointers_subset_of_item hw)
  | member hm _ ih => exact List.Subset.trans ih (allPointers_subset_of_member hm)

lemma allPointers_subset_of_step? {key : String} (h : step? key v = some w) :
    allPointers w ⊆ allPointers v := by
  cases v with
  | obj members => exact allPointers_subset_of_member (m := (key, w)) (Entries.mem_of_get? h)
  | arr items =>
    obtain ⟨i, -, hi⟩ := Option.bind_eq_some_iff.mp h
    exact allPointers_subset_of_item (List.mem_of_getElem? hi)
  | null | bool | number | str => simp [step?] at h

lemma allPointers_subset_of_walk {keys : List String} (h : walk keys v = .ok w) :
    allPointers w ⊆ allPointers v := by
  induction keys generalizing v with
  | nil =>
    obtain rfl : v = w := Except.ok.inj h
    exact List.Subset.refl _
  | cons key keys ih =>
    rw [walk] at h
    cases hstep : step? key v with
    | none => simp [hstep] at h
    | some next =>
      rw [hstep] at h
      exact List.Subset.trans (ih h) (allPointers_subset_of_step? hstep)

/-- What a pointer leads to mentions only pointers of the document. -/
lemma allPointers_subset_of_resolve (h : resolve tree pointer = .ok v) :
    allPointers v ⊆ allPointers tree := by
  rw [resolve] at h
  cases hkeys : Pointer.segments? pointer with
  | error e => simp [hkeys, bind, Except.bind] at h
  | ok keys =>
    cases hwalk : walk keys tree with
    | error key => simp [hkeys, hwalk, bind, Except.bind] at h
    | ok node =>
      obtain rfl : node = v := by simpa [hkeys, hwalk, bind, Except.bind] using h
      exact allPointers_subset_of_walk hwalk

end Reference

namespace Spec

open Reference (allPointers)

/-! ### References of a schema -/

/-- A schema all of whose references, at any depth, are certain pointers. -/
inductive Position.RefersWithin (pointers : List String) : Position Schema → Prop where
  | bool (b : Bool) : RefersWithin pointers (.bool b)
  | ref {pointer : String} (h : pointer ∈ pointers) : RefersWithin pointers (.ref pointer)
  | inline {s : Schema} (properties : ∀ q ∈ s.properties, RefersWithin pointers q.2)
      (additionalProperties : ∀ p ∈ s.additionalProperties, RefersWithin pointers p)
      (items : ∀ p ∈ s.items, RefersWithin pointers p)
      (prefixItems : ∀ p ∈ s.prefixItems, RefersWithin pointers p)
      (allOf : ∀ p ∈ s.allOf, RefersWithin pointers p)
      (oneOf : ∀ p ∈ s.oneOf, RefersWithin pointers p)
      (anyOf : ∀ p ∈ s.anyOf, RefersWithin pointers p) : RefersWithin pointers (.inline s)

variable {pointers : List String}

/-- What is read from a node refers to pointers of the node only. -/
theorem Position.refersWithin_of_ofJson? (v : Json) (hv : allPointers v ⊆ pointers)
    {p : Position Schema} (hp : Position.ofJson? v = some p) : p.RefersWithin pointers := by
  refine ofJson?_induction
    (motive := fun v p => allPointers v ⊆ pointers → p.RefersWithin pointers) ?_ ?_ ?_ v p hp hv
  · intro members pointer href hv
    have htarget : Reference.target? (.obj members) = some pointer := by
      rw [Reference.target?, Json.member?, href]
      rfl
    exact .ref (hv (Reference.mem_allPointers_of_target? htarget))
  · exact fun b _ => .bool b
  · intro members s _ hparts hv
    have hrefers : s.Parts (RefersWithin pointers) := by
      refine hparts.imp fun p hp => ?_
      obtain ⟨w, hw, hp⟩ := hp
      exact hp (List.Subset.trans (Reference.allPointers_subset_of_within hw) hv)
    exact .inline hrefers.properties hrefers.additionalProperties hrefers.items
      hrefers.prefixItems hrefers.allOf hrefers.oneOf hrefers.anyOf

end Spec

end OpenApiTypes
