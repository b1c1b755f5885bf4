/-
Names that are not taken.

* `Naming.firstFree`: the first of the candidates with numbers from two on that is not taken.
-/

namespace OpenApiTypes.Naming

/-- The first candidate from `counter` on that is not taken; after so many attempts, the next one.
Among one more candidates than there are taken names one is free, so the number of taken names is
enough attempts. -/
def firstFreeFrom (isTaken : String → Bool) (candidate : Nat → String) : Nat → Nat → String
  | 0, counter => candidate counter
  | attempts + 1, counter =>
    if isTaken (candidate counter) then firstFreeFrom isTaken candidate attempts (counter + 1)
    else candidate counter

/-- The first of the candidates with numbers from two on that is not taken, when `count` names
are. -/
def firstFree (isTaken : String → Bool) (candidate : Nat → String) (count : Nat) : String :=
  firstFreeFrom isTaken candidate count 2

end OpenApiTypes.Naming
