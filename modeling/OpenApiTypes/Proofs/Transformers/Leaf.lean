/-
Leaves that are restored.

* `Transformers.IsDate`, `Transformers.IsBigint`: schemas whose values are dates and long integers
  that are to be restored;
* `Transformers.revive_of_isDate`, `Transformers.revive_of_isBigint`, `Transformers.revive_of_not`:
  the statements for them, and none for other leaves.
-/
import OpenApiTypes.Transformers.Leaf
import Mathlib.Tactic.Common

namespace OpenApiTypes.Transformers

open OpenApiTypes.Model
open OpenApiTypes.TypeScript (Expr Stmt)
open OpenApiTypes.Config (TransformersOptions)

variable {options : TransformersOptions} {s : Schema} {target : Expr}

/-- A schema whose values are dates that are to be restored. -/
def IsDate (options : TransformersOptions) (s : Schema) : Prop :=
  options.dates = true ∧ s.shape = some .string
    ∧ (s.facets.format = some "date" ∨ s.facets.format = some "date-time")

/-- A schema whose values are long integers that are to be restored. -/
def IsBigint (options : TransformersOptions) (s : Schema) : Prop :=
  options.bigint = true ∧ s.shape = some .integer ∧ s.facets.format = some "int64"

section

variable (hdate : IsDate options s) (hbigint : IsBigint options s)

include hdate in
lemma revive_of_isDate : revive options s target
    = [.expr (.assign target (.construct (.identifier "Date") [target]))] := by
  obtain ⟨hon, hshape, hformat⟩ := hdate
  simp [revive, reviveDate?, Schema.hasShape, hon, hshape, hformat]

include hbigint in
lemma revive_of_isBigint : revive options s target
    = [.expr (.assign target (.call (.identifier "BigInt")
      [.call (.property target "toString") []]))] := by
  obtain ⟨hon, hshape, hformat⟩ := hbigint
  simp [revive, reviveDate?, reviveBigint?, Schema.hasShape, hon, hshape, hformat]

end

lemma revive_of_not (hdate : ¬ IsDate options s) (hbigint : ¬ IsBigint options s) :
    revive options s target = [] := by
  have hnodate : (if options.dates then reviveDate? s target else none) = none := by
    unfold reviveDate?
    split_ifs with hon hs
    · refine absurd ⟨hon, ?_⟩ hdate
      simpa [Schema.hasShape] using hs
    · rfl
    · rfl
  have hnobigint : (if options.bigint then reviveBigint? s target else none) = none := by
    unfold reviveBigint?
    split_ifs with hon hs
    · refine absurd ⟨hon, ?_⟩ hbigint
      simpa [Schema.hasShape] using hs
    · rfl
    · rfl
  simp [revive, hnodate, hnobigint]

lemma revive_eq_nil_iff :
    revive options s target = [] ↔ ¬ IsDate options s ∧ ¬ IsBigint options s := by
  refine ⟨fun h => ⟨fun hdate => ?_, fun hbigint => ?_⟩, fun h => revive_of_not h.1 h.2⟩
  · simp [revive_of_isDate hdate] at h
  · simp [revive_of_isBigint hbigint] at h

end OpenApiTypes.Transformers
