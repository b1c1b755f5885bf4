/-
Positions in types.

* `TypeScript.TypeAt`: what a type says of the values at a path. The names of types stand for what
  statements declare under them;
* `TypeScript.IsRevived`: the types of values that are not sent as they are, dates and long
  integers;
* `TypeScript.TypeAt.of_unionOf`, `TypeScript.TypeAt.of_intersectionOf`: in a union or an
  intersection, such a type is there by one of the types that it was made of.
-/
import OpenApiTypes.Proofs.TypeScript.Conversion
import OpenApiTypes.Proofs.TypeScript.Mentions

namespace OpenApiTypes.TypeScript

variable {statements : List Stmt} {n : Nat} {t u : TypeExpr} {types : List TypeExpr}
  {path : List Step}

/-- A type says that values at a path are of another type, where at most so many names of types are
replaced by what they stand for. -/
inductive TypeAt (statements : List Stmt) : Nat → TypeExpr → List Step → TypeExpr → Prop where
  | here {n : Nat} {t : TypeExpr} : TypeAt statements n t [] t
  | declared {n : Nat} {name : String} {exported : Bool} {t u : TypeExpr} {comment : List String}
      {path : List Step} (hmem : .typeAlias name exported t comment ∈ statements)
      (h : TypeAt statements n t path u) : TypeAt statements (n + 1) (named name) path u
  | element {n : Nat} {t u : TypeExpr} {path : List Step} (index : Nat)
      (h : TypeAt statements n t path u) :
      TypeAt statements n (.array t) (.element index :: path) u
  | position {n index : Nat} {elements : List TypeExpr} {t u : TypeExpr} {path : List Step}
      (hget : elements[index]? = some t) (h : TypeAt statements n t path u) :
      TypeAt statements n (.tuple elements) (.element index :: path) u
  | member {n : Nat} {properties : List (Property TypeExpr)} {index : Option TypeExpr}
      {p : Property TypeExpr} {u : TypeExpr} {path : List Step} (hmem : p ∈ properties)
      (h : TypeAt statements n p.type path u) :
      TypeAt statements n (.object properties index) (.member p.name :: path) u
  | other {n : Nat} {properties : List (Property TypeExpr)} {name : String} {t u : TypeExpr}
      {path : List Step} (hother : name ∉ properties.map Property.name)
      (h : TypeAt statements n t path u) :
      TypeAt statements n (.object properties (some t)) (.member name :: path) u
  | alternative {n : Nat} {members : List TypeExpr} {t u : TypeExpr} {path : List Step}
      (hmem : t ∈ members) (h : TypeAt statements n t path u) :
      TypeAt statements n (.union members) path u
  | part {n : Nat} {members : List TypeExpr} {t u : TypeExpr} {path : List Step}
      (hmem : t ∈ members) (h : TypeAt statements n t path u) :
      TypeAt statements n (.intersection members) path u

/-- The types of values that are not sent as they are: dates and long integers. -/
def IsRevived (t : TypeExpr) : Prop := t = named "Date" ∨ t = .keyword .bigint

namespace TypeAt

lemma of_alternatives (hmem : t ∈ u.alternatives) {v : TypeExpr}
    (h : TypeAt statements n t path v) : TypeAt statements n u path v := by
  unfold TypeExpr.alternatives at hmem
  split at hmem
  · exact .alternative hmem h
  · obtain rfl := List.mem_singleton.mp hmem
    exact h

lemma of_parts (hmem : t ∈ u.parts) {v : TypeExpr} (h : TypeAt statements n t path v) :
    TypeAt statements n u path v := by
  unfold TypeExpr.parts at hmem
  split at hmem
  · exact .part hmem h
  · obtain rfl := List.mem_singleton.mp hmem
    exact h

lemma eq_keyword {keyword : Keyword} (h : TypeAt statements n (.keyword keyword) path u) :
    path = [] ∧ u = .keyword keyword := by
  cases h
  exact ⟨rfl, rfl⟩

variable (hu : IsRevived u)
include hu

/-- Nothing is revived at a keyword but `bigint`. -/
lemma not_keyword {keyword : Keyword} (hne : keyword ≠ .bigint) :
    ¬ TypeAt statements n (.keyword keyword) path u := by
  intro h
  obtain ⟨-, rfl⟩ := h.eq_keyword
  simp [IsRevived, named, hne] at hu

/-- What is revived in a union is revived in one of the types that it is made of. -/
lemma of_unionOf (h : TypeAt statements n (unionOf types) path u) :
    ∃ t ∈ types, TypeAt statements n t path u := by
  have hmember : ∀ t ∈ members types, TypeAt statements n t path u →
      ∃ t ∈ types, TypeAt statements n t path u := by
    intro t ht h
    rcases mem_foldl_addMember ht with ht | ht
    · simp at ht
    · obtain ⟨whole, hwhole, ht⟩ := List.mem_flatMap.mp ht
      exact ⟨whole, hwhole, .of_alternatives ht h⟩
  unfold unionOf at h
  split at h
  · exact absurd h (not_keyword hu (by decide))
  · rename_i t heq
    exact hmember t (heq ▸ List.mem_singleton_self t) h
  · cases h with
    | here => rcases hu with hu | hu <;> simp [named] at hu
    | alternative hmem h => exact hmember _ hmem h

/-- What is revived in an intersection is revived in one of the types that it is made of. -/
lemma of_intersectionOf (h : TypeAt statements n (intersectionOf types) path u) :
    ∃ t ∈ types, TypeAt statements n t path u := by
  have hmember : ∀ t ∈ types.flatMap TypeExpr.parts, TypeAt statements n t path u →
      ∃ t ∈ types, TypeAt statements n t path u := by
    intro t ht h
    obtain ⟨whole, hwhole, ht⟩ := List.mem_flatMap.mp ht
    exact ⟨whole, hwhole, .of_parts ht h⟩
  unfold intersectionOf at h
  split at h
  · exact absurd h (not_keyword hu (by decide))
  · rename_i t heq
    exact hmember t (heq ▸ List.mem_singleton_self t) h
  · cases h with
    | here => rcases hu with hu | hu <;> simp [named] at hu
    | part hmem h => exact hmember _ hmem h

/-- Under a name, there is what is declared under it. -/
lemma of_named {name : String} (h : TypeAt statements n (named name) path u)
    (hname : name ≠ "Date") : ∃ m exported t comment, n = m + 1
      ∧ .typeAlias name exported t comment ∈ statements ∧ TypeAt statements m t path u := by
  generalize ht : named name = t at h
  cases h with
  | here =>
    subst ht
    rcases hu with hu | hu <;> simp [named] at hu
    exact absurd hu hname
  | declared hmem h =>
    obtain rfl : name = _ := by simpa [named] using ht
    exact ⟨_, _, _, _, rfl, hmem, h⟩
  | _ => simp [named] at ht

end TypeAt

end OpenApiTypes.TypeScript
