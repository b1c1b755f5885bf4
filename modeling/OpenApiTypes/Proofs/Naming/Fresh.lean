/-
Names that are not taken.

* `Naming.firstFree_not_taken`: the search for a free name finds one, whatever names are taken;
* `Naming.Search`: the search without a bound on its attempts;
* `Naming.search_firstFree`: it comes to an end where the bounded one does,
  `Naming.Search.exists_eq_candidate`: at the first candidate that is free;
* `ClaimedIds.choose_not_mem`: the id given to an operation was not claimed before.
-/
import OpenApiTypes.Naming.OperationId
import OpenApiTypes.Proofs.Text.Lettering
import Mathlib.Data.List.Nodup

namespace OpenApiTypes

namespace Naming

/-! ### The search -/

variable {isTaken : String → Bool} {candidate : Nat → String}

lemma firstFreeFrom_eq_candidate (isTaken : String → Bool) (candidate : Nat → String)
    (attempts counter : Nat) :
    ∃ n, counter ≤ n ∧ firstFreeFrom isTaken candidate attempts counter = candidate n := by
  induction attempts generalizing counter with
  | zero => exact ⟨counter, Nat.le_refl _, rfl⟩
  | succ attempts ih =>
    rw [firstFreeFrom]
    split
    · obtain ⟨n, hn, heq⟩ := ih (counter + 1)
      exact ⟨n, by omega, heq⟩
    · exact ⟨counter, Nat.le_refl _, rfl⟩

/-- A search that ends at a taken name has met nothing but taken names. -/
lemma taken_of_firstFreeFrom_taken {attempts counter : Nat}
    (h : isTaken (firstFreeFrom isTaken candidate attempts counter) = true) :
    ∀ i ≤ attempts, isTaken (candidate (counter + i)) = true := by
  induction attempts generalizing counter with
  | zero =>
    intro i hi
    obtain rfl : i = 0 := by omega
    exact h
  | succ attempts ih =>
    intro i hi
    rw [firstFreeFrom] at h
    split at h
    · rename_i htaken
      rcases i with - | i
      · exact htaken
      · have := ih h i (by omega)
        rwa [show counter + 1 + i = counter + (i + 1) by omega] at this
    · rename_i hfree
      exact absurd h hfree

/-- There is one candidate more than taken names, so one of them is free. Names count as the same
when `key` maps them to the same text. -/
theorem firstFree_not_taken (key : String → String) {taken : List String}
    (hcandidate : Function.Injective fun n => key (candidate n))
    (htaken : ∀ name, isTaken name = true → key name ∈ taken) :
    isTaken (firstFree isTaken candidate taken.length) = false := by
  by_contra hnot
  have hall := taken_of_firstFreeFrom_taken (Bool.not_eq_false _ ▸ hnot)
  set keys := (List.range (taken.length + 1)).map fun i => key (candidate (2 + i))
  have hnodup : keys.Nodup :=
    List.Nodup.map (fun i j hij => Nat.add_left_cancel (hcandidate hij)) List.nodup_range
  have hsubset : keys ⊆ taken := by
    intro k hk
    obtain ⟨i, hi, rfl⟩ := List.mem_map.mp hk
    exact htaken _ (hall i (Nat.le_of_lt_succ (List.mem_range.mp hi)))
  have hlength := hnodup.length_le_of_subset hsubset
  simp only [keys, List.length_map, List.length_range] at hlength
  omega

/-- The search for a free name, without a bound on its attempts: it goes on from a counter until a
candidate is free. -/
inductive Search (isTaken : String → Bool) (candidate : Nat → String) : Nat → String → Prop where
  | free {counter : Nat} (h : isTaken (candidate counter) = false) :
      Search isTaken candidate counter (candidate counter)
  | taken {counter : Nat} {name : String} (h : isTaken (candidate counter) = true)
      (rest : Search isTaken candidate (counter + 1) name) :
    Search isTaken candidate counter name

lemma search_firstFreeFrom {attempts counter : Nat}
    (h : isTaken (firstFreeFrom isTaken candidate attempts counter) = false) :
    Search isTaken candidate counter (firstFreeFrom isTaken candidate attempts counter) := by
  induction attempts generalizing counter with
  | zero => exact .free h
  | succ attempts ih =>
    rw [firstFreeFrom] at h ⊢
    split at h
    · rename_i htaken
      rw [if_pos htaken]
      exact .taken htaken (ih h)
    · rename_i hfree
      rw [if_neg hfree]
      exact .free h

/-- The search comes to an end. -/
lemma search_firstFree (key : String → String) {taken : List String}
    (hcandidate : Function.Injective fun n => key (candidate n))
    (htaken : ∀ name, isTaken name = true → key name ∈ taken) :
    Search isTaken candidate 2 (firstFree isTaken candidate taken.length) :=
  search_firstFreeFrom (firstFree_not_taken key hcandidate htaken)

/-- Where the search ends, all candidates that it has met before were taken. -/
lemma Search.exists_eq_candidate {counter : Nat} {name : String}
    (h : Search isTaken candidate counter name) : ∃ n, counter ≤ n ∧ name = candidate n
      ∧ ∀ m, counter ≤ m → m < n → isTaken (candidate m) = true := by
  induction h with
  | @free counter _ => exact ⟨counter, Nat.le_refl _, rfl, fun m hle hlt => by omega⟩
  | @taken counter _ htaken _ ih =>
    obtain ⟨n, hn, heq, hall⟩ := ih
    refine ⟨n, by omega, heq, fun m hle hlt => ?_⟩
    rcases Nat.eq_or_lt_of_le hle with rfl | hlt'
    · exact htaken
    · exact hall m hlt' hlt

end Naming

namespace ClaimedIds

/-! ### Ids -/

/-- The id given to an operation was not claimed before. -/
lemma choose_not_mem (claimed : ClaimedIds) (base path : String) :
    choose claimed base path ∉ claimed := by
  unfold choose
  split
  · simp_all
  · dsimp only
    split
    · simp_all
    · have hfree : claimed.contains (Naming.firstFree claimed.contains
          (fun n => base ++ toString n) claimed.length) = false :=
        Naming.firstFree_not_taken id (Text.append_number_injective base) (by simp)
      simpa using hfree

end ClaimedIds

end OpenApiTypes
