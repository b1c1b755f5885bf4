/-
Chains of references, pointer by pointer.

* `Reference.next?`, `Reference.chain?`: the pointer that a pointer leads on to, and the pointer at
  each place of a chain;
* `Reference.Distinct`: the first pointers of a chain are all different;
* `Reference.Ends`: how a chain ends: at a pointer that leads on to none, or in a circle;
* `Reference.Ends.unique`: a chain ends in one way only;
* `Reference.Unvisited`: which pointers may still be visited at a place of a chain;
* `Reference.ends_follow`: a chain ends in the way that `Reference.follow` says;
* `Reference.follow_eq_iff_chain?`: so each answer is given exactly to the chains it is right for.
-/
import OpenApiTypes.Proofs.Spec.Mentions

namespace OpenApiTypes.Reference

variable {document : Json} {pointer : String} {k n : ℕ}

/-! ### The pointers of a chain -/

/-- The pointer that the node under a pointer refers on to. -/
def next? (document : Json) (pointer : String) : Option String :=
  match resolve document pointer with
  | .ok node => target? node
  | .error _ => none

/-- The pointer at a place of the chain that begins at a pointer, as far as the chain goes. -/
def chain? (document : Json) (pointer : String) : ℕ → Option String
  | 0 => some pointer
  | k + 1 => (chain? document pointer k).bind (next? document)

/-- So many pointers at the beginning of a chain are different from each other. -/
def Distinct (document : Json) (pointer : String) (n : ℕ) : Prop :=
  ∀ i j, i < j → j < n → chain? document pointer i ≠ chain? document pointer j

lemma next?_of_ok {node : Json} (h : resolve document pointer = .ok node) :
    next? document pointer = target? node := by
  rw [next?, h]

lemma next?_of_error {e : ReferenceError} (h : resolve document pointer = .error e) :
    next? document pointer = none := by
  rw [next?, h]

lemma mem_allPointers_of_next? {next : String} (h : next? document pointer = some next) :
    next ∈ allPointers document := by
  cases hresolve : resolve document pointer with
  | ok node =>
    rw [next?_of_ok hresolve] at h
    exact allPointers_subset_of_resolve hresolve (mem_allPointers_of_target? h)
  | error e => simp [next?_of_error hresolve] at h

/-- After the first pointer of a chain there are only pointers of the document. -/
lemma mem_of_chain? {p : String} (h : chain? document pointer k = some p) :
    p ∈ pointer :: allPointers document := by
  cases k with
  | zero =>
    obtain rfl := Option.some.inj h
    exact List.mem_cons_self
  | succ k =>
    obtain ⟨q, -, hnext⟩ := Option.bind_eq_some_iff.mp h
    exact List.mem_cons_of_mem _ (mem_allPointers_of_next? hnext)

lemma chain?_succ {p : String} (h : chain? document pointer k = some p) :
    chain? document pointer (k + 1) = next? document p := by
  rw [chain?, h, Option.bind_some]

/-- A chain that has ended does not go on later. -/
lemma chain?_eq_none_of_le {m : ℕ} (h : chain? document pointer m = none) (hle : m ≤ n) :
    chain? document pointer n = none := by
  induction hle with
  | refl => exact h
  | step _ ih => rw [chain?, ih, Option.bind_none]

/-! ### Ends of chains -/

/-- How a chain ends, and what is said of it then. -/
inductive Ends (document : Json) (pointer : String) : Except ReferenceError (String × Json) → Prop
  /-- No pointer came twice, and the last one leads on to none: it leads to a node that refers to
  nothing, or nowhere. -/
  | stopped {k : ℕ} {last : String} (hchain : chain? document pointer k = some last)
      (hdistinct : Distinct document pointer (k + 1)) (hnext : next? document last = none) :
      Ends document pointer ((resolve document last).map fun node => (last, node))
  /-- A pointer comes again. -/
  | circular {i j : ℕ} (hlt : i < j)
      (hrepeats : chain? document pointer i = chain? document pointer j)
      (hchain : chain? document pointer i ≠ none) :
      Ends document pointer (.error (.circular pointer))

/-- Two places after which there is no pointer are one. -/
lemma eq_of_chain?_succ_eq_none {m : ℕ} {p q : String} (hm : chain? document pointer m = some p)
    (hmnext : chain? document pointer (m + 1) = none) (hn : chain? document pointer n = some q)
    (hnnext : chain? document pointer (n + 1) = none) : m = n := by
  rcases Nat.lt_trichotomy m n with hlt | heq | hgt
  · simp [chain?_eq_none_of_le hmnext hlt] at hn
  · exact heq
  · simp [chain?_eq_none_of_le hnnext hgt] at hm

/-- Where a chain has ended without repetition, no pointer comes twice. -/
lemma chain?_eq_none_of_repeats {i j : ℕ} (hdistinct : Distinct document pointer (k + 1))
    (hnext : chain? document pointer (k + 1) = none) (hlt : i < j)
    (hrepeats : chain? document pointer i = chain? document pointer j) :
    chain? document pointer i = none := by
  by_cases hj : j < k + 1
  · exact absurd hrepeats (hdistinct i j hlt hj)
  · rw [hrepeats]
    exact chain?_eq_none_of_le hnext (Nat.le_of_not_lt hj)

/-- A chain ends in one way only. -/
lemma Ends.unique {r r' : Except ReferenceError (String × Json)} (h : Ends document pointer r)
    (h' : Ends document pointer r') : r = r' := by
  cases h with
  | stopped hchain hdistinct hnext =>
    have hend := (chain?_succ hchain).trans hnext
    cases h' with
    | stopped hchain' _ hnext' =>
      have hend' := (chain?_succ hchain').trans hnext'
      obtain rfl := eq_of_chain?_succ_eq_none hchain hend hchain' hend'
      rw [Option.some.inj (hchain.symm.trans hchain')]
    | circular hlt hrepeats hsome =>
      exact absurd (chain?_eq_none_of_repeats hdistinct hend hlt hrepeats) hsome
  | circular hlt hrepeats hsome =>
    cases h' with
    | stopped hchain' hdistinct' hnext' =>
      have hend' := (chain?_succ hchain').trans hnext'
      exact absurd (chain?_eq_none_of_repeats hdistinct' hend' hlt hrepeats) hsome
    | circular => rfl

/-! ### Following a chain -/

/-- The pointers that may still be visited: of those in the chain, the ones that have not come
before a place. -/
def Unvisited (document : Json) (pointer : String) (k : ℕ) (fresh : List String) : Prop :=
  ∀ i p, chain? document pointer i = some p →
    (p ∈ fresh ↔ ∀ j < k, chain? document pointer j ≠ some p)

lemma unvisited_zero (document : Json) (pointer : String) :
    Unvisited document pointer 0 (pointer :: allPointers document) := by
  intro i p hp
  simp [mem_of_chain? hp]

lemma Unvisited.without {current : String} {fresh : List String}
    (h : Unvisited document pointer k fresh) (hcurrent : chain? document pointer k = some current) :
    Unvisited document pointer (k + 1) (without current fresh) := by
  intro i p hp
  rw [mem_without, h i p hp]
  constructor
  · rintro ⟨hbefore, hne⟩ j hj
    rcases Nat.lt_succ_iff_lt_or_eq.mp hj with hj | rfl
    · exact hbefore j hj
    · rw [hcurrent]
      exact fun heq => hne (Option.some.inj heq).symm
  · intro hbefore
    refine ⟨fun j hj => hbefore j (Nat.lt_succ_of_lt hj), ?_⟩
    rintro rfl
    exact hbefore k (Nat.lt_succ_self k) hcurrent

lemma Distinct.succ {current : String} (h : Distinct document pointer k)
    (hcurrent : chain? document pointer k = some current)
    (hnew : ∀ j < k, chain? document pointer j ≠ some current) :
    Distinct document pointer (k + 1) := by
  intro i j hlt hj
  rcases Nat.lt_succ_iff_lt_or_eq.mp hj with hj | rfl
  · exact h i j hlt hj
  · rw [hcurrent]
    exact hnew i hlt

/-- From every place of a chain it is followed to its end. -/
lemma ends_followFrom (k : ℕ) {current : String} (fresh : List String)
    (hcurrent : chain? document pointer k = some current) (hdistinct : Distinct document pointer k)
    (hfresh : Unvisited document pointer k fresh) :
    Ends document pointer (followFrom document pointer current fresh) := by
  rw [followFrom]
  by_cases hmem : current ∈ fresh
  · rw [dif_pos hmem]
    have hdistinct' := hdistinct.succ hcurrent ((hfresh k current hcurrent).mp hmem)
    cases hresolve : resolve document current with
    | error e =>
      have hend := Ends.stopped hcurrent hdistinct' (next?_of_error hresolve)
      rwa [hresolve] at hend
    | ok node =>
      have hnext := next?_of_ok hresolve
      simp only [bind, Except.bind]
      cases htarget : target? node with
      | none =>
        have hend := Ends.stopped hcurrent hdistinct' (hnext.trans htarget)
        rwa [hresolve] at hend
      | some next =>
        have hcurrent' := (chain?_succ hcurrent).trans (hnext.trans htarget)
        exact ends_followFrom (k + 1) (Reference.without current fresh) hcurrent' hdistinct'
          (hfresh.without hcurrent)
  · -- A pointer of the chain that may not be visited any more came before.
    rw [dif_neg hmem]
    have hseen : ∃ j < k, chain? document pointer j = some current := by
      by_contra hnone
      push Not at hnone
      exact hmem ((hfresh k current hcurrent).mpr hnone)
    obtain ⟨j, hj, hsame⟩ := hseen
    exact .circular hj (hsame.trans hcurrent.symm) (by simp [hsame])
termination_by fresh.length
decreasing_by exact length_without_lt hmem

/-- A chain ends in the way that following it says. -/
lemma ends_follow (document : Json) (pointer : String) :
    Ends document pointer (follow document pointer) :=
  ends_followFrom 0 _ rfl (fun _ j _ hj => absurd hj (Nat.not_lt_zero j))
    (unvisited_zero document pointer)

lemma follow_eq_iff {r : Except ReferenceError (String × Json)} :
    follow document pointer = r ↔ Ends document pointer r :=
  ⟨fun h => h ▸ ends_follow document pointer, fun h => (ends_follow document pointer).unique h⟩

/-! ### Answers -/

/-- A chain comes to a place without a repetition, at a certain pointer. -/
def Reaches (document : Json) (pointer : String) (k : ℕ) (last : String) : Prop :=
  chain? document pointer k = some last ∧ Distinct document pointer (k + 1)

/-- A pointer comes twice in a chain. -/
def Repeats (document : Json) (pointer : String) : Prop :=
  ∃ i j, i < j ∧ chain? document pointer i = chain? document pointer j
    ∧ chain? document pointer i ≠ none

lemma ends_ok_iff {last : String} {node : Json} : Ends document pointer (.ok (last, node)) ↔
    ∃ k, Reaches document pointer k last ∧ resolve document last = .ok node
      ∧ target? node = none := by
  constructor
  · intro h
    generalize hr : Except.ok (last, node) = r at h
    cases h with
    | circular => cases hr
    | @stopped k last' hchain hdistinct hnext =>
      cases hresolve : resolve document last' with
      | error e => simp [hresolve, Except.map] at hr
      | ok node' =>
        obtain ⟨rfl, rfl⟩ : last = last' ∧ node = node' := by
          simpa [hresolve, Except.map] using hr
        exact ⟨k, ⟨hchain, hdistinct⟩, hresolve, (next?_of_ok hresolve).symm.trans hnext⟩
  · rintro ⟨k, ⟨hchain, hdistinct⟩, hresolve, htarget⟩
    have hend := Ends.stopped hchain hdistinct ((next?_of_ok hresolve).trans htarget)
    rwa [hresolve] at hend

lemma ends_error_iff {e : ReferenceError} : Ends document pointer (.error e) ↔
    (∃ k last, Reaches document pointer k last ∧ resolve document last = .error e)
      ∨ e = .circular pointer ∧ Repeats document pointer := by
  constructor
  · intro h
    generalize hr : Except.error e = r at h
    cases h with
    | circular hlt hrepeats hchain => exact .inr ⟨Except.error.inj hr, _, _, hlt, hrepeats, hchain⟩
    | @stopped k last hchain hdistinct hnext =>
      cases hresolve : resolve document last with
      | ok node => simp [hresolve, Except.map] at hr
      | error e' =>
        obtain rfl : e = e' := by simpa [hresolve, Except.map] using hr
        exact .inl ⟨k, last, ⟨hchain, hdistinct⟩, hresolve⟩
  · rintro (⟨k, last, ⟨hchain, hdistinct⟩, hresolve⟩ | ⟨rfl, i, j, hlt, hrepeats, hchain⟩)
    · have hend := Ends.stopped hchain hdistinct (next?_of_error hresolve)
      rwa [hresolve] at hend
    · exact .circular hlt hrepeats hchain

lemma segments?_ne_circular (pointer p : String) :
    Pointer.segments? pointer ≠ .error (.circular p) := by
  unfold Pointer.segments?
  split
  · simp
  · simp
  · simp
  · split_ifs <;> simp

/-- A pointer that leads nowhere by itself is not called circular. -/
lemma resolve_ne_circular (document : Json) (pointer p : String) :
    resolve document pointer ≠ .error (.circular p) := by
  rw [resolve]
  cases hkeys : Pointer.segments? pointer with
  | error e =>
    rintro ⟨⟩
    exact segments?_ne_circular pointer p hkeys
  | ok keys =>
    simp only [bind, Except.bind]
    split <;> simp

/-- Following a chain of references ends at a node exactly if the chain comes there without a
repetition and the node refers to nothing; it ends with the error of a pointer exactly if the chain
comes to that pointer without a repetition; and it says that the chain is circular exactly if a
pointer comes twice. -/
theorem follow_eq_iff_chain? (document : Json) (pointer : String) :
    (∀ last node, follow document pointer = .ok (last, node) ↔
      ∃ k, Reaches document pointer k last ∧ resolve document last = .ok node
        ∧ target? node = none)
    ∧ (∀ e, (follow document pointer = .error e ∧ ∀ p, e ≠ .circular p) ↔
      ∃ k last, Reaches document pointer k last ∧ resolve document last = .error e)
    ∧ (∀ p, follow document pointer = .error (.circular p) ↔
      p = pointer ∧ Repeats document pointer) := by
  refine ⟨fun last node => follow_eq_iff.trans ends_ok_iff, fun e => ?_, fun p => ?_⟩
  · rw [follow_eq_iff, ends_error_iff]
    constructor
    · rintro ⟨hbroken | ⟨rfl, -⟩, hne⟩
      · exact hbroken
      · exact absurd rfl (hne pointer)
    · intro hbroken
      refine ⟨.inl hbroken, ?_⟩
      rintro p rfl
      obtain ⟨k, last, -, hresolve⟩ := hbroken
      exact resolve_ne_circular document last p hresolve
  · rw [follow_eq_iff, ends_error_iff]
    constructor
    · rintro (⟨k, last, -, hresolve⟩ | ⟨heq, hrepeats⟩)
      · exact absurd hresolve (resolve_ne_circular document last p)
      · exact ⟨ReferenceError.circular.inj heq, hrepeats⟩
    · rintro ⟨rfl, hrepeats⟩
      exact .inr ⟨rfl, hrepeats⟩

end OpenApiTypes.Reference
