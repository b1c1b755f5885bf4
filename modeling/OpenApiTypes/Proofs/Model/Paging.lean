/-
Paging fields among component schemas in any order.

* `Model.Catalog.find?_eq_of_perm`, `Model.Catalog.deref_eq_of_perm`: with distinct names, pointers
  stand for the same schemas;
* `Model.pagingOfBody?_eq_of_perm`, `Model.pagingOfParameter?_eq_of_perm`: so the same field is
  found.
-/
import OpenApiTypes.Model.Paging
import OpenApiTypes.Proofs.Entries
import OpenApiTypes.Proofs.Reference

namespace OpenApiTypes.Model

variable {catalog catalog' : Catalog} (h : catalog.Perm catalog') (hnodup : catalog.keys.Nodup)

include h hnodup

namespace Catalog

lemma find?_eq_of_perm : catalog.find? = catalog'.find? := by
  funext pointer
  simp only [find?, Entries.get?_eq_of_perm h hnodup]

lemma derefWithin_eq_of_perm (links : Nat) (s : Schema) :
    catalog.derefWithin links s = catalog'.derefWithin links s := by
  induction links generalizing s with
  | zero => rfl
  | succ links ih =>
    rw [derefWithin, derefWithin, target?, target?, find?_eq_of_perm h hnodup]
    cases s.pointer.bind catalog'.find? with
    | none => rfl
    | some next => exact ih next

/-- Chains of pointers have the same end, and cycles are left at the same schema. -/
lemma deref_eq_of_perm : catalog.deref = catalog'.deref := by
  funext s
  rw [deref, deref, h.length_eq, derefWithin_eq_of_perm h hnodup]

end Catalog

lemma ownPagedProperty?_eq_of_perm (keywords : List String) (s : Schema) :
    ownPagedProperty? catalog keywords s = ownPagedProperty? catalog' keywords s := by
  simp only [ownPagedProperty?, isPrimitiveLike, Catalog.deref_eq_of_perm h hnodup]

/-- The same property is found first, if the same pointers may still be entered. -/
lemma searchPaged_eq_of_perm (keywords : List String) {fresh fresh' : List String}
    (hfresh : ∀ p, p ∈ fresh ↔ p ∈ fresh') (tasks : List PagingTask) :
    searchPaged catalog keywords fresh tasks = searchPaged catalog' keywords fresh' tasks := by
  induction fresh, tasks using searchPaged.induct catalog keywords generalizing fresh' with
  | case1 => rw [searchPaged, searchPaged]
  | case2 fresh s rest name hname =>
    rw [searchPaged, searchPaged, ← ownPagedProperty?_eq_of_perm h hnodup, hname]
  | case3 fresh s rest hname ih =>
    rw [searchPaged, searchPaged, ← ownPagedProperty?_eq_of_perm h hnodup, hname]
    exact ih hfresh
  | case4 fresh s rest hpointer ih =>
    rw [searchPaged, searchPaged, hpointer]
    exact ih hfresh
  | case5 fresh s rest pointer hpointer hmem target htarget ih =>
    rw [searchPaged, searchPaged, hpointer]
    dsimp only
    rw [dif_pos hmem, dif_pos ((hfresh pointer).mp hmem), ← Catalog.find?_eq_of_perm h hnodup,
      htarget]
    exact ih (Reference.mem_without_congr hfresh pointer)
  | case6 fresh s rest pointer hpointer hmem htarget ih =>
    rw [searchPaged, searchPaged, hpointer]
    dsimp only
    rw [dif_pos hmem, dif_pos ((hfresh pointer).mp hmem), ← Catalog.find?_eq_of_perm h hnodup,
      htarget]
    exact ih (Reference.mem_without_congr hfresh pointer)
  | case7 fresh s rest pointer hpointer hmem ih =>
    rw [searchPaged, searchPaged, hpointer]
    dsimp only
    rw [dif_neg hmem, dif_neg fun hmem' => hmem ((hfresh pointer).mpr hmem')]
    exact ih hfresh

theorem pagingOfBody?_eq_of_perm (keywords : List String) (s : Schema) :
    pagingOfBody? catalog keywords s = pagingOfBody? catalog' keywords s := by
  have hpointers : ∀ p, p ∈ itemPointers s ++ catalog.values.flatMap itemPointers
      ↔ p ∈ itemPointers s ++ catalog'.values.flatMap itemPointers := fun p =>
    (((h.map Prod.snd).flatMap_right itemPointers).append_left _).mem_iff
  rw [pagingOfBody?, pagingOfBody?, searchPaged_eq_of_perm h hnodup keywords hpointers]

theorem pagingOfParameter?_eq_of_perm (keywords : List String) (name : String) (s : Schema) :
    pagingOfParameter? catalog keywords name s = pagingOfParameter? catalog' keywords name s := by
  rw [pagingOfParameter?, pagingOfParameter?, pagingOfBody?_eq_of_perm h hnodup]

end OpenApiTypes.Model
