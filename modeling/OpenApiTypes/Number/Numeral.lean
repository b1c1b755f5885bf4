/-
Numbers read from digits.

* `Numeral`: sign, digits and exponent of a number as it is written;
* `Numeral.ofChars?`: the numerals of JSON text;
* `Numeral.toNumber?`: the number of a numeral. Integers that fit are kept; for the others the
  leading digits that fit 64 bits are taken and scaled by powers of ten, one rounding for each;
* `Numeral.nearest?`: the correctly rounded binary fraction instead.
-/
import OpenApiTypes.Number.Basic

namespace OpenApiTypes

/-- A number as it is written: `whole . fraction e exponent`. -/
structure Numeral where
  negative : Bool
  whole : List Nat
  fraction : Option (List Nat)
  exponent : Option Int
deriving DecidableEq, Repr

namespace Numeral

/-! ### Digits -/

/-- The value of a decimal digit. -/
def digit? (c : Char) : Option Nat := if c.isDigit then some (c.toNat - '0'.toNat) else none

/-- The digits at the front of a text. -/
def leadingDigits (cs : List Char) : List Nat := (cs.takeWhile Char.isDigit).filterMap digit?

/-- What follows them. -/
def afterDigits (cs : List Char) : List Char := cs.dropWhile Char.isDigit

/-- The natural number of a list of digits. -/
def ofDigits (ds : List Nat) : Nat := ds.foldl (fun n d => n * 10 + d) 0

/-! ### The numerals of JSON text -/

/-- An exponent after its letter: an optional sign and at least one digit. -/
def exponent? (cs : List Char) : Option (Int × List Char) :=
  let (sign, rest) : Int × List Char := match cs with
    | '+' :: r => (1, r)
    | '-' :: r => (-1, r)
    | r => (1, r)
  match leadingDigits rest with
  | [] => none
  | ds => some (sign * ofDigits ds, afterDigits rest)

/-- A whole text as a numeral: no sign but `-`, no superfluous leading zero, digits on both sides
of a point. -/
def ofChars? (cs : List Char) : Option Numeral :=
  let (negative, cs) := match cs with
    | '-' :: r => (true, r)
    | r => (false, r)
  let whole := leadingDigits cs
  let rest := afterDigits cs
  if whole.isEmpty || (whole.length > 1 && whole.head? == some 0) then none
  else
    let (fraction, rest) := match rest with
      | '.' :: r => (some (leadingDigits r), afterDigits r)
      | r => (none, r)
    if fraction == some [] then none
    else
      let exponent := match rest with
        | [] => some none
        | c :: r =>
          if c == 'e' || c == 'E' then
            match exponent? r with
            | some (e, []) => some (some e)
            | _ => none
          else none
      exponent.map fun e => ⟨negative, whole, fraction, e⟩

/-! ### The number of a numeral -/

/-- Appends digits to a significand as long as it stays below `2 ^ 64`; also tells how many
digits were left out. -/
def accumulate : Nat → List Nat → Nat × Nat
  | n, [] => (n, 0)
  | n, d :: ds =>
    if n * 10 + d < Nat.pow 2 64 then accumulate (n * 10 + d) ds else (n, ds.length + 1)

/-- The significand and the power of ten it is scaled by. -/
def parts (n : Numeral) : Nat × Int :=
  let (whole, left) := accumulate 0 n.whole
  let fraction := n.fraction.getD []
  let (significand, unused) := accumulate whole fraction
  (significand, (left : Int) - ((fraction.length : Int) - unused) + n.exponent.getD 0)

/-- Divides by `10 ^ 308` so many times, or until zero is reached. -/
def divideRepeatedly : Nat → Binary64 → Option Binary64
  | 0, x => some x
  | count + 1, x =>
    if x.rank.val = 0 then some x
    else do
      let power ← Binary64.ofDecimal? false 1 308
      divideRepeatedly count (← x.div? power)

/-- Scales by a power of ten, with one rounding for each factor of at most `10 ^ 308`. -/
def scale? (x : Binary64) (exponent : Int) : Option Binary64 :=
  if exponent ≥ 0 then
    if exponent ≤ 308 then do x.mul? (← Binary64.ofDecimal? false 1 exponent)
    else if x.rank.val = 0 then some x else none
  else
    let steps := ((-exponent).toNat - 1) / 308
    do
      let y ← divideRepeatedly steps x
      y.div? (← Binary64.ofDecimal? false 1 (-exponent - 308 * steps))

/-- The number of a numeral: an integer when there is neither fraction nor exponent and the
integer fits, otherwise the scaled significand. `-0` is the binary fraction. -/
def toNumber? (n : Numeral) : Option Number :=
  let (significand, exponent) := n.parts
  let float := do
    let x ← scale? (← Binary64.ofNat? significand) exponent
    some (Number.float (if n.negative then x.neg else x))
  if n.fraction.isNone && n.exponent.isNone && (accumulate 0 n.whole).2 == 0 then
    if !n.negative then some (.int significand)
    else if 0 < significand && significand ≤ Nat.pow 2 63 then some (.int (-significand))
    else float
  else float

/-- The binary fraction nearest to the numeral. -/
def nearest? (n : Numeral) : Option Binary64 :=
  let fraction := n.fraction.getD []
  Binary64.ofDecimal? n.negative (ofDigits (n.whole ++ fraction))
    (n.exponent.getD 0 - fraction.length)

end Numeral

/-- The number that a JSON text denotes. -/
def Number.ofChars? (cs : List Char) : Option Number := do (← Numeral.ofChars? cs).toNumber?

end OpenApiTypes
