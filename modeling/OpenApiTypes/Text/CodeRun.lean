/-
Sets of code points and maps between them, as ascending lists of runs.

* `CodeRun`, `CodeRun.covers`: a set of characters;
* `CodeShift`, `CodeShift.find?`: how far a character is moved.
-/

namespace OpenApiTypes

/-- The code points `first`, `first + step`, … up to `last`. -/
structure CodeRun where
  first : Nat
  last : Nat
  step : Nat

namespace CodeRun

/-- Whether a code point belongs to a run. -/
def has (r : CodeRun) (n : Nat) : Bool :=
  decide (r.first ≤ n) && decide (n ≤ r.last) && (n - r.first) % r.step == 0

/-- Whether a code point belongs to one of the runs, which ascend: none of the later ones can
hold a code point that comes before the first of them. -/
def covers : List CodeRun → Nat → Bool
  | [], _ => false
  | r :: rest, n => if n < r.first then false else r.has n || covers rest n

end CodeRun

/-- Moves the code points `first`, `first + step`, … up to `last` by `offset`. -/
structure CodeShift where
  first : Nat
  last : Nat
  step : Nat
  offset : Int

namespace CodeShift

/-- The code point that a code point is moved to by the first of the ascending shifts that
applies. -/
def find? : List CodeShift → Nat → Option Nat
  | [], _ => none
  | s :: rest, n =>
    if n < s.first then none
    else if CodeRun.has ⟨s.first, s.last, s.step⟩ n then some ((n : Int) + s.offset).toNat
    else find? rest n

end CodeShift

end OpenApiTypes
