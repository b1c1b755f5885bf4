/-
Lists of schemas without repetitions.

* `Model.mem_of_mem_distinct`: nothing is added;
* `Model.exists_mem_distinct`: whatever is left out agrees with something before it that is not;
* `Model.pairwise_distinct`: what is not left out does not agree with anything before it;
* `Model.distinct_filter`: leaving out schemas that agree with no other ones may come before or
  after leaving out repetitions;
* `Model.unionOf_eq_some`: the union of schemas of which one is not void is that one.
-/
import OpenApiTypes.Model.Operation
import Mathlib.Tactic.Common

namespace OpenApiTypes.Model

variable {l seen : List Schema} {s t : Schema} {keep : Schema → Bool}

lemma Schema.shape_eq_of_agrees (h : s.agrees t = true) : s.shape = t.shape := by
  cases s
  simp only [agrees, Bool.and_eq_true, beq_iff_eq] at h
  tauto

/-! ### Repetitions -/

lemma mem_of_mem_foldl_addDistinct (h : s ∈ l.foldl addDistinct seen) : s ∈ seen ∨ s ∈ l := by
  induction l generalizing seen with
  | nil => exact .inl h
  | cons t l ih =>
    rcases ih h with h | h
    · unfold addDistinct at h
      split at h
      · exact .inl h
      · refine (List.mem_append.mp h).imp id fun h => ?_
        obtain rfl := List.mem_singleton.mp h
        exact List.mem_cons_self
    · exact .inr (List.mem_cons_of_mem _ h)

lemma mem_of_mem_distinct (h : s ∈ distinct l) : s ∈ l :=
  (mem_of_mem_foldl_addDistinct h).resolve_left List.not_mem_nil

lemma subset_addDistinct (seen : List Schema) (s : Schema) : seen ⊆ addDistinct seen s := by
  unfold addDistinct
  split
  · exact List.Subset.refl _
  · exact List.subset_append_left _ _

lemma subset_foldl_addDistinct (l seen : List Schema) : seen ⊆ l.foldl addDistinct seen := by
  induction l generalizing seen with
  | nil => exact List.Subset.refl _
  | cons s l ih => exact fun t ht => ih _ (subset_addDistinct seen s ht)

/-- A schema that is left out agrees with one before it that is not. -/
lemma exists_mem_distinct (before : List Schema) (s : Schema) (after : List Schema) :
    ∃ t ∈ distinct (before ++ s :: after), t ∈ before ++ [s] ∧ (t = s ∨ t.agrees s = true) := by
  have hstep : ∃ t ∈ addDistinct (distinct before) s,
      t ∈ before ++ [s] ∧ (t = s ∨ t.agrees s = true) := by
    unfold addDistinct
    split
    · rename_i hseen
      obtain ⟨t, ht, hagrees⟩ := List.any_eq_true.mp hseen
      exact ⟨t, ht, List.mem_append_left _ (mem_of_mem_distinct ht), .inr hagrees⟩
    · have hlast : ∀ l, s ∈ l ++ [s] := fun l => List.mem_append_right l (List.mem_singleton_self s)
      exact ⟨s, hlast _, hlast _, .inl rfl⟩
  obtain ⟨t, ht, hagrees⟩ := hstep
  refine ⟨t, ?_, hagrees⟩
  rw [distinct, List.foldl_append, List.foldl_cons]
  exact subset_foldl_addDistinct after _ ht

lemma pairwise_addDistinct (h : seen.Pairwise fun s t => s.agrees t = false) (s : Schema) :
    (addDistinct seen s).Pairwise fun s t => s.agrees t = false := by
  unfold addDistinct
  split
  · exact h
  · rename_i hseen
    refine List.pairwise_append.mpr ⟨h, List.pairwise_singleton _ _, fun t ht u hu => ?_⟩
    obtain rfl := List.mem_singleton.mp hu
    simpa using fun hagrees => hseen (List.any_eq_true.mpr ⟨t, ht, hagrees⟩)

lemma pairwise_distinct (l : List Schema) :
    (distinct l).Pairwise fun s t => s.agrees t = false :=
  List.foldlRecOn l addDistinct (motive := fun l : List Schema =>
    l.Pairwise fun s t => s.agrees t = false) .nil fun _ h s _ => pairwise_addDistinct h s

section

variable (hkeep : ∀ {s t : Schema}, s.agrees t = true → keep s = keep t)
include hkeep

lemma filter_addDistinct : (addDistinct seen s).filter keep
    = if keep s then addDistinct (seen.filter keep) s else seen.filter keep := by
  have hany : keep s = true → ((seen.filter keep).any fun other => other.agrees s)
      = seen.any fun other => other.agrees s := by
    intro hs
    rw [List.any_filter]
    refine List.any_congr rfl fun other => ?_
    cases hagrees : other.agrees s with
    | false => simp
    | true => simp [hkeep hagrees, hs]
  unfold addDistinct
  by_cases hs : keep s = true
  · rw [if_pos hs, hany hs]
    split
    · rfl
    · simp [hs]
  · rw [if_neg hs]
    split
    · rfl
    · simp [hs]

lemma filter_foldl_addDistinct : (l.foldl addDistinct seen).filter keep
    = (l.filter keep).foldl addDistinct (seen.filter keep) := by
  induction l generalizing seen with
  | nil => rfl
  | cons s l ih =>
    rw [List.foldl_cons, ih, filter_addDistinct hkeep]
    by_cases hs : keep s = true <;> simp [hs]

lemma distinct_filter : distinct (l.filter keep) = (distinct l).filter keep := by
  unfold distinct
  rw [filter_foldl_addDistinct hkeep, List.filter_nil]

end

/-! ### Unions -/

/-- The union of schemas of which one is not void is that one. -/
lemma unionOf_eq_some (h : distinct (l.filter fun t => !t.hasShape .void) = [s]) :
    unionOf l = some s := by
  have hvoid : ∀ {s t : Schema}, s.agrees t = true → (!s.hasShape .void) = !t.hasShape .void := by
    intro s t h
    simp [Schema.hasShape, Schema.shape_eq_of_agrees h]
  rw [distinct_filter hvoid] at h
  have hkept : (if (distinct l).length > 1 then (distinct l).filter fun t => !t.hasShape .void
      else distinct l) = [s] := by
    split
    · exact h
    · rename_i hlength
      -- At least one schema is left, so there is nothing to leave out.
      refine (List.filter_sublist.eq_of_length ?_).symm.trans h
      have := List.length_filter_le (fun t : Schema => !t.hasShape .void) (distinct l)
      rw [h] at this ⊢
      simp at this ⊢
      omega
  simp [unionOf, hkept, Schema.composed]

end OpenApiTypes.Model
