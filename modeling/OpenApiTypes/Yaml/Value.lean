/-
The values of YAML scalars.

* `Yaml.Atom`: null, booleans, numbers and texts;
* `Yaml.plainAtom?`: what a text without quotes looks like;
* `Yaml.Scalar.atom?`: what a scalar stands for: without quotes, what it looks like; in quotes,
  its text. A tag overrides both;
* `Yaml.Node.toJson?`: the tree of values of a tree of nodes.
-/
import OpenApiTypes.Json.Value
import OpenApiTypes.Number.Numeral
import OpenApiTypes.Text.Hexadecimal
import OpenApiTypes.Text.Split
import OpenApiTypes.Yaml.Node

namespace OpenApiTypes.Yaml

open OpenApiTypes.Text

/-- What a scalar stands for. -/
inductive Atom where
  | null
  | bool (value : Bool)
  /-- An integer without a minus sign. -/
  | natural (value : Nat)
  /-- An integer after a minus sign. -/
  | negative (size : Nat)
  | fraction (value : Binary64)
  /-- An infinite number, or none. -/
  | unbounded
  | text (value : String)
deriving DecidableEq, Repr

/-- The JSON value of an atom. There is none for numbers that are not finite but null. -/
def Atom.toJson : Atom → Json
  | null => .null
  | bool b => .bool b
  | natural n => .number (.int n)
  | negative n => .number (.int (-(n : Int)))
  | fraction x => .number (.float x)
  | unbounded => .null
  | text s => .str s

/-! ### Null and booleans -/

/-- Whether a text stands for null. -/
def isNull (s : String) : Bool := s == "null" || s == "Null" || s == "NULL" || s == "~"

/-- The truth value of a text. -/
def bool? (s : String) : Option Bool :=
  if s == "true" || s == "True" || s == "TRUE" then some true
  else if s == "false" || s == "False" || s == "FALSE" then some false
  else none

/-! ### Integers -/

/-- The value of a digit to a base. -/
def digitOf? (base : Nat) (c : Char) : Option Nat := do
  let d ← hexDigit? c
  if d < base then some d else none

/-- The natural number of digits to a base; there must be at least one. -/
def natOf? (base : Nat) (cs : List Char) : Option Nat := do
  if cs.isEmpty then none
  else some ((← cs.mapM (digitOf? base)).foldl (fun n d => n * base + d) 0)

/-- A sign and what follows it. -/
def splitSign : List Char → Option Char × List Char
  | '+' :: rest => (some '+', rest)
  | '-' :: rest => (some '-', rest)
  | rest => (none, rest)

/-- Whether a text is made of digits of which the first is a superfluous zero. -/
def hasLeadingZero (cs : List Char) : Bool :=
  match (splitSign cs).2 with
  | '0' :: d :: rest => (d :: rest).all Char.isDigit
  | _ => false

/-- The natural number of a text without a sign. Hexadecimal, octal and binary digits come after
`0x`, `0o` and `0b`. -/
def unsigned? : List Char → Option Nat
  | '0' :: 'x' :: digits => natOf? 16 digits
  | '0' :: 'o' :: digits => natOf? 8 digits
  | '0' :: 'b' :: digits => natOf? 2 digits
  | digits => if hasLeadingZero digits then none else natOf? 10 digits

/-- The integer of a text: whether there is a minus sign, and the number after it. -/
def integer? (cs : List Char) : Option (Bool × Nat) := do
  let (sign, digits) := splitSign cs
  some (sign == some '-', ← unsigned? digits)

/-- What a scalar that looks like an integer stands for. Beyond 64 bits there is no value for it,
and beyond 128 bits it is no integer any more. -/
def integerAtom (negative : Bool) (n : Nat) : Option (Option Atom) :=
  if negative then
    if n ≤ Nat.pow 2 63 then some (some (.negative n))
    else if n ≤ Nat.pow 2 127 then some none
    else none
  else if n < Nat.pow 2 64 then some (some (.natural n))
  else if n < Nat.pow 2 128 then some none
  else none

/-- What a text that may look like an integer stands for. -/
def integerAtom? (cs : List Char) : Option (Option Atom) := do
  let (negative, n) ← integer? cs
  integerAtom negative n

/-! ### Other numbers -/

/-- Whether a text stands for an infinite number. -/
def isInfinite (cs : List Char) : Bool :=
  let unsigned := String.ofList (splitSign cs).2
  unsigned == ".inf" || unsigned == ".Inf" || unsigned == ".INF"

/-- Whether a text stands for no number. -/
def isUndefined (s : String) : Bool := s == ".nan" || s == ".NaN" || s == ".NAN"

/-- The exponent after a fraction. -/
def exponent? : List Char → Option (Option Int)
  | [] => some none
  | c :: rest =>
    if c == 'e' || c == 'E' then
      let (sign, digits) := splitSign rest
      if digits.isEmpty || !digits.all Char.isDigit then none
      else
        let n : Int := Numeral.ofDigits (Numeral.leadingDigits digits)
        some (some (if sign == some '-' then -n else n))
    else none

/-- The decimal number of a text: digits, of which there must be some on one side of the point,
and an exponent. -/
def numeral? (cs : List Char) : Option Numeral :=
  let (sign, digits) := splitSign cs
  let whole := Numeral.leadingDigits digits
  let (fraction, rest) := match Numeral.afterDigits digits with
    | '.' :: rest => (some (Numeral.leadingDigits rest), Numeral.afterDigits rest)
    | rest => (none, rest)
  if whole.isEmpty && (fraction.getD []).isEmpty then none
  else (exponent? rest).map fun e => ⟨sign == some '-', whole, fraction, e⟩

/-- The number nearest to a text, if it is not too large. -/
def float? (cs : List Char) : Option Binary64 := do (← numeral? cs).nearest?

/-! ### Atoms -/

/-- What a scalar without quotes stands for; nothing if there is no value for it. -/
def plainAtom? (s : String) : Option Atom :=
  let cs := s.toList
  if s.isEmpty || isNull s then some .null
  else match bool? s with
    | some b => some (.bool b)
    | none =>
      match integerAtom? cs with
      | some atom => atom
      | none =>
        if hasLeadingZero cs then some (.text s)
        else if isInfinite cs || isUndefined s then some .unbounded
        else match float? cs with
          | some x => some (.fraction x)
          | none => some (.text s)

/-- What a text stands for under a standard tag. -/
def taggedAtom? (tag s : String) : Option Atom :=
  let cs := s.toList
  if tag == "bool" then (bool? s).map .bool
  else if tag == "int" then (integerAtom? cs).join
  else if tag == "float" then
    if isInfinite cs || isUndefined s then some .unbounded else (float? cs).map .fraction
  else if tag == "null" then if isNull s then some .null else none
  else some (.text s)

/-- Whether a tag is one that documents define for themselves. -/
def isLocalTag (tag : Option String) : Bool :=
  match tag with
  | some t => startsWith "!" t
  | none => false

/-- What a scalar stands for; nothing if its tag is not known or does not fit it. -/
def Scalar.atom? (s : Scalar) : Option Atom :=
  match s.tag with
  | none => if s.form == .plain then plainAtom? s.text else some (.text s.text)
  | some tag =>
    if startsWith "!" tag then none
    else match stripPrefix? standardTags.toList tag.toList with
      | some name => taggedAtom? (String.ofList name) s.text
      | none => some (.text s.text)

/-! ### Trees of values -/

/-- The text of a scalar, whatever it looks like. -/
def Node.text? : Node → Option String
  | .scalar s => some s.text
  | _ => none

mutual

/-- The value of a node. Keys are texts; a repeated one keeps its first place and its last
value. -/
def Node.toJson? : Node → Option Json
  | .scalar s => s.atom?.map Atom.toJson
  | .aliasOf _ => none
  | .sequence tag items => do
    if isLocalTag tag then none else some (.arr (← itemsToJson? items))
  | .mapping tag pairs => do
    if isLocalTag tag then none else some (.obj (Entries.ofPairs (← pairsToJson? pairs)))

/-- The values of items. -/
def itemsToJson? : List Node → Option (List Json)
  | [] => some []
  | n :: rest => do some ((← n.toJson?) :: (← itemsToJson? rest))

/-- The members that pairs become. -/
def pairsToJson? : List (Node × Node) → Option (List (String × Json))
  | [] => some []
  | (k, v) :: rest => do
    let key ← k.text?
    some ((key, ← v.toJson?) :: (← pairsToJson? rest))

end

/-- The value of a text; null if the text holds nothing but comments. -/
def read? (text : String) : Option Json := do
  match ← Document.ofText? text with
  | none => some .null
  | some d => (← d.expand?).toJson?

end OpenApiTypes.Yaml
