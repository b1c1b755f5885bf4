/-
References followed through two documents that correspond.

* `Agree`: the same error, or results that are related;
* `Reference.Bisimulation`: a relation between nodes from which the same key leads to related nodes,
  and which refer on to the same pointer;
* `Reference.agree_resolve`, `Reference.agree_follow`: a pointer leads to related nodes, and so does
  a chain of references;
* `Reference.read_eq`: what is read at its end is the same if the reader does not tell related nodes
  apart.
-/
import OpenApiTypes.Reference
import Mathlib.Tactic.Common

namespace OpenApiTypes

/-! ### Results -/

section

variable {ε α β : Type}

/-- The same error, or values that are related. -/
inductive Agree (r : α → α → Prop) : Except ε α → Except ε α → Prop where
  | ok {a b : α} (h : r a b) : Agree r (.ok a) (.ok b)
  | error (e : ε) : Agree r (.error e) (.error e)

lemma Agree.bind {r : α → α → Prop} {r' : β → β → Prop} {x y : Except ε α}
    {f g : α → Except ε β} (h : Agree r x y) (hfg : ∀ a b, r a b → Agree r' (f a) (g b)) :
    Agree r' (x >>= f) (y >>= g) := by
  cases h with
  | ok h => exact hfg _ _ h
  | error e => exact .error e

lemma Agree.imp {r r' : α → α → Prop} {x y : Except ε α} (h : Agree r x y)
    (himp : ∀ a b, r a b → r' a b) : Agree r' x y := by
  cases h with
  | ok h => exact .ok (himp _ _ h)
  | error e => exact .error e

lemma Agree.refl (x : Except ε α) : Agree Eq x x := by
  cases x with
  | ok a => exact .ok rfl
  | error e => exact .error e

lemma Agree.eq {x y : Except ε α} (h : Agree Eq x y) : x = y := by
  cases h with
  | ok h => rw [h]
  | error e => rfl

end

namespace Reference

/-! ### Nodes -/

/-- From related nodes the same key leads to related nodes, or nowhere from both, and they refer on
to the same pointer. -/
structure Bisimulation (r : Json → Json → Prop) : Prop where
  step : ∀ {v w} key, r v w → Option.Rel r (step? key v) (step? key w)
  target : ∀ {v w}, r v w → target? v = target? w

/-! ### Chains -/

lemma mem_without_congr {fresh fresh' : List String} (h : ∀ p, p ∈ fresh ↔ p ∈ fresh')
    (pointer p : String) : p ∈ without pointer fresh ↔ p ∈ without pointer fresh' := by
  rw [mem_without, mem_without, h]

section

variable {α : Type} {r : Json → Json → Prop} (hr : Bisimulation r) {tree tree' : Json}
  (htree : r tree tree')

include hr htree

lemma agree_walk (keys : List String) : Agree r (walk keys tree) (walk keys tree') := by
  induction keys generalizing tree tree' with
  | nil => exact .ok htree
  | cons key keys ih =>
    have hstep := hr.step key htree
    rw [walk, walk]
    generalize step? key tree = next, step? key tree' = next' at hstep
    cases hstep with
    | none => exact .error key
    | some h => exact ih h

/-- A pointer leads to related nodes, or fails alike. -/
lemma agree_resolve (pointer : String) :
    Agree r (resolve tree pointer) (resolve tree' pointer) := by
  unfold resolve
  refine Agree.bind (r := Eq) (.refl _) ?_
  rintro keys _ rfl
  have hwalk := agree_walk hr htree keys
  generalize walk keys tree = result, walk keys tree' = result' at hwalk
  cases hwalk with
  | ok h => exact .ok h
  | error key => exact .error _

/-- Chains through related documents end alike, if the same pointers may still be visited. -/
lemma agree_followFrom (start current : String) (fresh : List String) {fresh' : List String}
    (hfresh : ∀ p, p ∈ fresh ↔ p ∈ fresh') :
    Agree (fun a b => a.1 = b.1 ∧ r a.2 b.2) (followFrom tree start current fresh)
      (followFrom tree' start current fresh') := by
  rw [followFrom, followFrom]
  by_cases hcurrent : current ∈ fresh
  · rw [dif_pos hcurrent, dif_pos ((hfresh current).mp hcurrent)]
    refine (agree_resolve hr htree current).bind fun node node' hnode => ?_
    rw [← hr.target hnode]
    cases target? node with
    | none => exact .ok ⟨rfl, hnode⟩
    | some next =>
      exact agree_followFrom start next (without current fresh) (mem_without_congr hfresh current)
  · rw [dif_neg hcurrent, dif_neg fun h => hcurrent ((hfresh current).mpr h)]
    exact .error _
termination_by fresh.length
decreasing_by exact length_without_lt hcurrent

variable (hpointers : ∀ p, p ∈ allPointers tree ↔ p ∈ allPointers tree')

include hpointers

lemma agree_follow (pointer : String) :
    Agree (fun a b => a.1 = b.1 ∧ r a.2 b.2) (follow tree pointer) (follow tree' pointer) :=
  agree_followFrom hr htree pointer pointer _ fun p => by
    rw [List.mem_cons, List.mem_cons, hpointers]

/-- A reader that does not tell related nodes apart reads the same at the end of a chain. -/
theorem read_eq {read? : Json → Option α} (hread : ∀ v w, r v w → read? v = read? w)
    (pointer : String) : read read? tree pointer = read read? tree' pointer := by
  refine (Agree.bind (agree_follow hr htree hpointers pointer) ?_).eq
  rintro ⟨last, node⟩ ⟨last', node'⟩ ⟨hlast, hnode⟩
  obtain rfl : last = last' := hlast
  dsimp only
  rw [hread node node' hnode]
  cases read? node' with
  | none => exact .error _
  | some value => exact .ok rfl

end

/-! ### All pointers -/

lemma mem_memberPointers {p : String} {members : List (String × Json)} :
    p ∈ memberPointers members ↔ ∃ m ∈ members, p ∈ allPointers m.2 := by
  induction members with
  | nil => simp [memberPointers]
  | cons m members ih =>
    obtain ⟨key, v⟩ := m
    simp [memberPointers, ih]

section

variable {p : String}

lemma mem_memberPointers_congr {ms ns : List (String × Json)}
    (h : List.Forall₂ (fun m n => p ∈ allPointers m.2 ↔ p ∈ allPointers n.2) ms ns) :
    p ∈ memberPointers ms ↔ p ∈ memberPointers ns := by
  induction h with
  | nil => rfl
  | cons h _ ih => rw [memberPointers, memberPointers, List.mem_append, List.mem_append, h, ih]

lemma mem_itemPointers_congr {vs ws : List Json}
    (h : List.Forall₂ (fun v w => p ∈ allPointers v ↔ p ∈ allPointers w) vs ws) :
    p ∈ itemPointers vs ↔ p ∈ itemPointers ws := by
  induction h with
  | nil => rfl
  | cons h _ ih => rw [itemPointers, itemPointers, List.mem_append, List.mem_append, h, ih]

end

end Reference

end OpenApiTypes
