/-
The shortest decimal text of a finite number:

* `Decimal`: digits and the power of ten of the last one;
* `Binary64.readsBack`: a decimal lies among the reals that round to the number;
* `Binary64.shortest`: the decimal with the fewest digits that reads back, and of those
  the nearest one;
* `DecimalStyle`, `Decimal.render`: where positional notation ends and how the exponent
  is written.
-/
import OpenApiTypes.Number.Binary64

namespace OpenApiTypes

/-- The decimal `digits · 10 ^ exponent`. -/
structure Decimal where
  digits : Nat
  exponent : Int
deriving DecidableEq, Repr

namespace Binary64

/-! ### The reals that round to a number -/

/-- The decimal lies among the reals whose nearest number is `x`. The ends of that interval
belong to it when the significand is even. -/
def readsBack (x : Binary64) (d : Decimal) : Bool :=
  match ofDecimal? x.negative d.digits d.exponent with
  | some y => y.rank == x.rank
  | none => false

/-- How far a decimal is from the magnitude of `x`, as a numerator over a denominator that
depends only on `x` and on the exponent of the decimal. -/
def distance (x : Binary64) (d : Decimal) : Nat :=
  let (n, den) := x.fraction
  let (p, q) := if d.exponent ≥ 0 then (d.digits * Nat.pow 10 d.exponent.toNat, 1)
    else (d.digits, Nat.pow 10 (-d.exponent).toNat)
  let a := n * q
  let b := p * den
  if a ≥ b then a - b else b - a

/-- The power of ten of the first digit of a magnitude that is not zero. -/
def leadingPower (x : Binary64) : Int :=
  let (n, d) := x.fraction
  let guess : Int := (((n.log2 : Int) - (d.log2 : Int)) * 30103) / 100000
  let reaches (e : Int) : Bool :=
    if e ≥ 0 then decide (d * Nat.pow 10 e.toNat ≤ n)
    else decide (d ≤ n * Nat.pow 10 (-e).toNat)
  if reaches (guess + 1) then guess + 1
  else if reaches guess then guess
  else guess - 1

/-- The two neighbours of the magnitude among the decimals whose last digit has power
`exponent`. -/
def gridNeighbours (x : Binary64) (exponent : Int) : Decimal × Decimal :=
  let (n, d) := x.fraction
  let low := if exponent ≥ 0 then n / (d * Nat.pow 10 exponent.toNat)
    else n * Nat.pow 10 (-exponent).toNat / d
  (⟨low, exponent⟩, ⟨low + 1, exponent⟩)

/-- The nearer of the two neighbours that read back; a tie goes to the even one. -/
def pick? (x : Binary64) (exponent : Int) : Option Decimal :=
  let (low, high) := x.gridNeighbours exponent
  match x.readsBack low, x.readsBack high with
  | true, true =>
    let dl := x.distance low
    let dh := x.distance high
    some (if dl < dh ∨ (dl = dh ∧ low.digits % 2 = 0) then low else high)
  | true, false => some low
  | false, true => some high
  | false, false => none

/-- The first grid that holds a decimal which reads back, from coarse to fine. -/
def firstGrid (x : Binary64) : Nat → Int → Decimal
  | 0, exponent => (x.gridNeighbours exponent).1
  | count + 1, exponent =>
    match x.pick? exponent with
    | some d => d
    | none => firstGrid x count (exponent - 1)

/-- The decimal with the fewest digits that reads back, and of those the nearest. Seventeen
digits always suffice. -/
def shortest (x : Binary64) : Decimal :=
  if x.rank.val = 0 then ⟨0, 0⟩ else x.firstGrid 17 x.leadingPower

end Binary64

/-! ### Writing a decimal -/

/-- The choices left open by the digits of a number. -/
structure DecimalStyle where
  /-- The least power of ten of the first digit that is written positionally. -/
  least : Int
  /-- The greatest one. -/
  greatest : Int
  /-- Whether a positive exponent carries a sign. -/
  signsExponent : Bool

namespace Decimal

/-- The decimal without trailing zeros. `fuel` bounds their number. -/
def trim : Nat → Decimal → Decimal
  | 0, d => d
  | fuel + 1, d =>
    if d.digits ≠ 0 ∧ d.digits % 10 = 0 then trim fuel ⟨d.digits / 10, d.exponent + 1⟩ else d

/-- The digits of a natural number, most significant first. -/
def digitChars (n : Nat) : List Char := Nat.toDigits 10 n

/-- Writes a magnitude: positional notation always has a fraction, the other one has none
when there is a single digit. -/
def render (style : DecimalStyle) (d : Decimal) : List Char :=
  let t := d.trim 400
  let cs := digitChars t.digits
  let first : Int := if t.digits = 0 then 0 else t.exponent + cs.length - 1
  if style.least ≤ first ∧ first ≤ style.greatest then
    if t.exponent ≥ 0 then cs ++ List.replicate t.exponent.toNat '0' ++ ['.', '0']
    else if first ≥ 0 then
      cs.take (first.toNat + 1) ++ ['.'] ++ cs.drop (first.toNat + 1)
    else ['0', '.'] ++ List.replicate ((-first).toNat - 1) '0' ++ cs
  else
    let mantissa := match cs with
      | c :: c' :: r => c :: '.' :: c' :: r
      | short => short
    let sign := if first < 0 then ['-'] else if style.signsExponent then ['+'] else []
    mantissa ++ ['e'] ++ sign ++ digitChars first.natAbs

end Decimal

/-- The shortest text of a number in a given style. -/
def Binary64.render (style : DecimalStyle) (x : Binary64) : List Char :=
  (if x.negative then ['-'] else []) ++ x.shortest.render style

end OpenApiTypes
