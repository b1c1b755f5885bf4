/-
Finite binary floating-point numbers of 64 bits, in exact natural-number arithmetic:

* `Binary64`: a sign and a rank, the place of the magnitude among all finite
  magnitudes in ascending order;
* `Binary64.significand`, `Binary64.exponent`: the magnitude of rank `r` is
  `significand · 2 ^ exponent`;
* `Binary64.nearest?`: the number nearest to a fraction, halves going to the even
  neighbour, and nothing when the fraction lies beyond the finite range;
* `Binary64.mul?`, `Binary64.div?`: the rounded product and quotient;
* `Binary64.agrees`: equality of values, for which the two zeros are one.
-/

namespace OpenApiTypes

/-- How many finite magnitudes there are: 2047 binades of `2 ^ 52` values each. -/
def Binary64.rankCount : Nat := 2047 * Nat.pow 2 52

/-- A finite number: its sign and the rank of its magnitude. The rank is the number of
smaller magnitudes, so neighbouring ranks are neighbouring numbers. -/
structure Binary64 where
  negative : Bool
  rank : Fin Binary64.rankCount
deriving DecidableEq, Repr

namespace Binary64

/-- Positive zero. -/
def zero : Binary64 := ⟨false, ⟨0, by decide⟩⟩

instance : Inhabited Binary64 := ⟨zero⟩

/-- The integer factor of the magnitude. The lowest binade has no hidden bit. -/
def significand (x : Binary64) : Nat :=
  if x.rank.val / Nat.pow 2 52 = 0 then x.rank.val else x.rank.val % Nat.pow 2 52 + Nat.pow 2 52

/-- The power of two that goes with `significand`. -/
def exponent (x : Binary64) : Int :=
  if x.rank.val / Nat.pow 2 52 = 0 then -1074 else (x.rank.val / Nat.pow 2 52 : Nat) - 1075

/-- The number with the other sign. -/
def neg (x : Binary64) : Binary64 := ⟨!x.negative, x.rank⟩

/-- Equality of values: the sign of a zero does not count. -/
def agrees (x y : Binary64) : Bool :=
  x.rank == y.rank && (x.negative == y.negative || x.rank.val == 0)

theorem agrees_self (x : Binary64) : x.agrees x = true := by
  simp [agrees]

/-- A number of this sign and rank, when the rank is finite. -/
def ofRank? (negative : Bool) (rank : Nat) : Option Binary64 :=
  if h : rank < rankCount then some ⟨negative, ⟨rank, h⟩⟩ else none

/-! ### Rounding -/

/-- `num / den`, a half going to the even neighbour. -/
def roundQuotient (num den : Nat) : Nat :=
  let floor := num / den
  let twice := 2 * (num % den)
  if twice > den ∨ (twice = den ∧ floor % 2 = 1) then floor + 1 else floor

/-- The fraction `num / den` divided by `2 ^ q`, again as a fraction. -/
def scaled (num den : Nat) (q : Int) : Nat × Nat :=
  if q ≥ 0 then (num, den * Nat.pow 2 q.toNat) else (num * Nat.pow 2 (-q).toNat, den)

/-- The exponent of the binade that holds `num / den`: the smallest one, not below the lowest,
for which the scaled fraction stays under `2 ^ 53`. -/
def binadeExponent (num den : Nat) : Int :=
  let low := max ((num.log2 : Int) - (den.log2 : Int) - 53) (-1074)
  let (n, d) := scaled num den low
  if n / d < Nat.pow 2 53 then low else low + 1

/-- The number nearest to `num / den`, or nothing when that lies beyond the finite range. -/
def nearest? (negative : Bool) (num den : Nat) : Option Binary64 :=
  if num = 0 then ofRank? negative 0
  else
    let q := binadeExponent num den
    let (n, d) := scaled num den q
    ofRank? negative ((q + 1074).toNat * Nat.pow 2 52 + roundQuotient n d)

/-- The number nearest to an integer. -/
def ofNat? (n : Nat) : Option Binary64 := nearest? false n 1

/-- The magnitude as a fraction. -/
def fraction (x : Binary64) : Nat × Nat :=
  if x.exponent ≥ 0 then (x.significand * Nat.pow 2 x.exponent.toNat, 1)
  else (x.significand, Nat.pow 2 (-x.exponent).toNat)

theorem fraction_pos (x : Binary64) : 0 < x.fraction.2 := by
  unfold fraction
  split
  · exact Nat.one_pos
  · exact Nat.pow_pos Nat.two_pos

/-- The product of two numbers, rounded. -/
def mul? (x y : Binary64) : Option Binary64 :=
  let (a, b) := x.fraction
  let (c, d) := y.fraction
  nearest? (x.negative != y.negative) (a * c) (b * d)

/-- The quotient of two numbers, rounded; a divisor of zero gives nothing. -/
def div? (x y : Binary64) : Option Binary64 :=
  let (a, b) := x.fraction
  let (c, d) := y.fraction
  if c = 0 then none else nearest? (x.negative != y.negative) (a * d) (b * c)

/-- The number nearest to `digits · 10 ^ exponent`. A magnitude from `10 ^ 400` on is beyond the
finite range and one below `2 ^ -1200` is nearest to zero, so no larger power is ever formed. -/
def ofDecimal? (negative : Bool) (digits : Nat) (exponent : Int) : Option Binary64 :=
  if digits = 0 then ofRank? negative 0
  else if exponent ≥ 400 then none
  else if exponent ≥ 0 then nearest? negative (digits * Nat.pow 10 exponent.toNat) 1
  else if (digits.log2 : Int) + 1 + 3 * exponent < -1200 then ofRank? negative 0
  else nearest? negative digits (Nat.pow 10 (-exponent).toNat)

end Binary64

end OpenApiTypes
