/-
Numbers of a document: integers and finite binary fractions, never equal to each other.

* `Number`: the two kinds;
* `Number.agrees`: equality of values within one kind;
* `Number.IsInteger`: which integer a number is, if it is one;
* `Number.text`: integers in decimal digits, other numbers by their shortest decimal.
-/
import OpenApiTypes.Number.Shortest

namespace OpenApiTypes

/-- A number of a document. Reading keeps integers between `-2 ^ 63` and `2 ^ 64 - 1` and makes
every other number a `Binary64`. -/
inductive Number where
  | int (value : Int)
  | float (value : Binary64)
deriving DecidableEq, Repr

namespace Number

instance : Inhabited Number := ⟨int 0⟩

/-- Equality of values; an integer is never equal to a binary fraction. -/
def agrees : Number → Number → Bool
  | int a, int b => a == b
  | float a, float b => a.agrees b
  | _, _ => false

theorem agrees_self (n : Number) : n.agrees n = true := by
  cases n <;> simp [agrees, Binary64.agrees_self]

/-- A number is an integer. -/
def IsInteger : Number → Int → Prop
  | int j, i => j = i
  | float x, i =>
    (if x.negative then -(x.fraction.1 : Int) else x.fraction.1) = i * x.fraction.2

theorem IsInteger.unique {n : Number} {i j : Int} (hi : n.IsInteger i) (hj : n.IsInteger j) :
    i = j := by
  cases n with
  | int k => exact hi.symm.trans hj
  | float x =>
    have hpos := x.fraction_pos
    exact Int.eq_of_mul_eq_mul_right (by omega) (hi.symm.trans hj)

/-- Positional notation for first digits between `10 ^ -5` and `10 ^ 15`; the exponent always
carries its sign. -/
def style : DecimalStyle := ⟨-5, 15, true⟩

/-- The text of an integer. -/
def intText (i : Int) : List Char :=
  if i < 0 then '-' :: Decimal.digitChars i.natAbs else Decimal.digitChars i.natAbs

/-- The text of a number. -/
def text : Number → String
  | int i => String.ofList (intText i)
  | float x => String.ofList (x.render style)

/-- The number as a binary fraction, rounded if it is a large integer. -/
def toBinary64 : Number → Binary64
  | float x => x
  | int i =>
    match Binary64.nearest? (decide (i < 0)) i.natAbs 1 with
    | some x => x
    | none => Binary64.zero

/-- The number as a natural number, when it is an integer that is not negative. -/
def toNat? : Number → Option Nat
  | int (.ofNat n) => some n
  | _ => none

end Number

end OpenApiTypes
