/-
Escapes with a sign.

* `Pointer.plainDecode`: the text of a segment when only hexadecimal digits make an escape;
* `Pointer.unsigned`: a text whose signs are zeros; `Pointer.pieces_unsigned`: that is how a text is
  read;
* `Pointer.Signed`: a percent sign stands before a plus sign and a digit;
  `Pointer.inert_pieces_signed`: characters are lost where it does;
* `Pointer.percentDecode_eq_plainDecode_iff`: so a segment is decoded as it should be exactly if it
  has no sign; `Pointer.exists_misread`: it may have one.
-/
import OpenApiTypes.Proofs.Pointer.Percent

namespace OpenApiTypes.Pointer

open OpenApiTypes.Text

/-! ### Escapes without a sign -/

lemma signedPair?_of_ne {high : Char} (h : high ≠ '+') (low : Char) :
    signedPair? high low = hexPair? high low := by
  rw [signedPair?, if_neg h]

lemma hexPair?_plus (low : Char) : hexPair? '+' low = none := by
  simp [hexPair?, hexDigit?]

/-- What is read with a plus sign cannot be read without. -/
lemma signedPair?_of_hexPair? {high low : Char} {byte : UInt8}
    (h : hexPair? high low = some byte) : signedPair? high low = some byte := by
  rw [signedPair?_of_ne _ low, h]
  rintro rfl
  simp [hexPair?_plus] at h

lemma hexPair?_eq_none {high low : Char} (h : signedPair? high low = none) :
    hexPair? high low = none :=
  Option.eq_none_iff_forall_ne_some.mpr fun byte hbyte => by
    simp [signedPair?_of_hexPair? hbyte] at h

lemma hexPair?_ascii {high low : Char} {byte : UInt8} (h : hexPair? high low = some byte) :
    high.toNat < 0x80 ∧ low.toNat < 0x80 := by
  obtain ⟨m, n, hm, hn, -⟩ := hexPair?_eq_some_iff.mp h
  exact ⟨(isDigitLike_of_hexDigit? hm).ascii, (isDigitLike_of_hexDigit? hn).ascii⟩

/-- A segment whose percent escapes are decoded as they are defined: a percent sign and two
hexadecimal digits stand for a byte. -/
def plainDecode (segment : String) : String :=
  String.ofList (Utf8.decodeLossy (scan hexPair? (Utf8.encode segment.toList)))

lemma plainDecode_eq_textOf (segment : String) :
    plainDecode segment = textOf (pieces hexPair? segment.toList) := by
  rw [plainDecode, scan_encode fun _ _ _ => hexPair?_ascii, textOf]

/-! ### Signs that are zeros -/

/-- A text in which the plus sign is a zero, wherever it stands between a percent sign and a
digit. -/
def unsigned : List Char → List Char
  | [] => []
  | c :: high :: low :: rest =>
    if c = '%' ∧ high = '+' ∧ (hexDigit? low).isSome then c :: '0' :: low :: unsigned rest
    else c :: unsigned (high :: low :: rest)
  | c :: rest => c :: unsigned rest

lemma isSome_signedPair?_plus (low : Char) :
    (signedPair? '+' low).isSome = (hexDigit? low).isSome := by
  have hzero : hexDigit? '0' = some 0 := rfl
  cases hlow : hexDigit? low <;> simp [signedPair?, hexPair?, hzero, hlow]

lemma unsigned_cons {c : Char} {cs : List Char} (h : Literal signedPair? c cs) :
    unsigned (c :: cs) = c :: unsigned cs := by
  match cs, h with
  | [], _ => rfl
  | [_], _ => rfl
  | high :: low :: rest, h =>
    rw [unsigned]
    split_ifs with hsign
    · obtain ⟨hc, rfl, hlow⟩ := hsign
      simp [← isSome_signedPair?_plus, h hc _ _ _ rfl] at hlow
    · rfl

lemma unsigned_escape {high low : Char} {byte : UInt8} (rest : List Char)
    (h : signedPair? high low = some byte) : unsigned ('%' :: high :: low :: rest)
      = '%' :: (if high = '+' then '0' else high) :: low :: unsigned rest := by
  obtain ⟨hhigh, hlow⟩ := isDigitLike_of_signedPair? h
  rw [unsigned]
  by_cases hsign : high = '+'
  · subst hsign
    have hdigit : (hexDigit? low).isSome := by rw [← isSome_signedPair?_plus, h]; rfl
    rw [if_pos ⟨rfl, rfl, hdigit⟩, if_pos rfl]
  · rw [if_neg fun hand => hsign hand.2.1, if_neg hsign,
      unsigned_cons (literal_of_ne hhigh.ne_percent _),
      unsigned_cons (literal_of_ne hlow.ne_percent _)]

lemma head?_unsigned (cs : List Char) : (unsigned cs).head? = cs.head? := by
  fun_cases unsigned cs <;> rfl

/-- Where no escape is read, none is written. -/
lemma literal_unsigned {c : Char} {cs : List Char} (h : Literal signedPair? c cs) :
    Literal hexPair? c (unsigned cs) := by
  intro hc high low rest hcs
  have hhead := head?_unsigned cs
  rw [hcs] at hhead
  obtain ⟨ds, rfl⟩ : ∃ ds, cs = high :: ds := by
    cases cs with
    | nil => simp at hhead
    | cons d ds => exact ⟨ds, by simpa using hhead.symm⟩
  by_cases hpercent : high = '%'
  · subst hpercent
    rfl
  · rw [unsigned_cons (literal_of_ne hpercent ds)] at hcs
    have hnext := head?_unsigned ds
    rw [(List.cons.inj hcs).2] at hnext
    obtain ⟨es, rfl⟩ : ∃ es, ds = low :: es := by
      cases ds with
      | nil => simp at hnext
      | cons e es => exact ⟨es, by simpa using hnext.symm⟩
    exact hexPair?_eq_none (h hc high low es rfl)

/-- What is read is what stands there without signs. -/
lemma pieces_unsigned (cs : List Char) :
    pieces hexPair? (unsigned cs) = pieces signedPair? cs := by
  induction cs using pieces_induction signedPair? with
  | nil => rfl
  | escape high low rest byte h ih =>
    have hunsigned : hexPair? (if high = '+' then '0' else high) low = some byte := h
    rw [unsigned_escape rest h, pieces_escape _ hunsigned, pieces_escape rest h, ih]
  | plain c cs h ih =>
    rw [unsigned_cons h, pieces_cons h, pieces_cons (literal_unsigned h), ih]

/-! ### Places of signs -/

/-- A percent sign stands before a plus sign and a digit. -/
def Signed (cs : List Char) : Prop :=
  Occurs (fun high low => high = '+' ∧ (hexDigit? low).isSome) cs

lemma isSome_of_sign (high low : Char) (h : high = '+' ∧ (hexDigit? low).isSome) :
    (signedPair? high low).isSome := by
  obtain ⟨rfl, hlow⟩ := h
  rwa [isSome_signedPair?_plus]

lemma signed_cons {c : Char} {cs : List Char} (h : Literal signedPair? c cs) :
    Signed (c :: cs) ↔ Signed cs :=
  occurs_cons isSome_of_sign h

lemma signed_escape {high low : Char} {byte : UInt8} (rest : List Char)
    (h : signedPair? high low = some byte) :
    Signed ('%' :: high :: low :: rest) ↔ high = '+' ∨ Signed rest := by
  refine (occurs_escape isSome_of_sign rest h).trans (or_congr_left (and_iff_left_of_imp ?_))
  rintro rfl
  rw [← isSome_signedPair?_plus, h]
  rfl

lemma unsigned_eq_self {cs : List Char} (h : ¬ Signed cs) : unsigned cs = cs := by
  induction cs using pieces_induction signedPair? with
  | nil => rfl
  | escape high low rest byte hbyte ih =>
    obtain ⟨hsign, hrest⟩ := not_or.mp ((signed_escape rest hbyte).not.mp h)
    rw [unsigned_escape rest hbyte, if_neg hsign, ih hrest]
  | plain c cs hliteral ih => rw [unsigned_cons hliteral, ih ((signed_cons hliteral).not.mp h)]

/-! ### Characters that are lost -/

lemma isInert_of_lt {c : Char} (h : c.toNat < 0x20) : isInert c = false := by
  have hsmall : ¬ 0x20 ≤ c.toNat := by omega
  simp [isInert, hsmall]

/-- What is read with a plus sign is no graphic character. -/
lemma isInert_of_plus {low : Char} {byte : UInt8} (h : signedPair? '+' low = some byte) :
    isInert (Char.ofNat byte.toNat) = false := by
  obtain ⟨m, n, hm, hn, rfl⟩ := hexPair?_eq_some_iff.mp h
  obtain rfl : 0 = m := Option.some.inj hm
  have hbound := (hexDigit?_bounds hn).1
  refine isInert_of_lt ?_
  rw [Utf8.toNat_ofNat_toNat, Utf8.toNat_ofNat (by omega)]
  omega

/-- A sign that is read as a zero takes inert characters away. -/
lemma inert_pieces_signed (cs : List Char) :
    inert (pieces signedPair? cs) ≤ inert (pieces hexPair? cs)
      ∧ (Signed cs → inert (pieces signedPair? cs) < inert (pieces hexPair? cs)) := by
  induction cs using pieces_induction signedPair? with
  | nil => exact ⟨Nat.le_refl _, fun h => absurd h not_occurs_nil⟩
  | escape high low rest byte h ih =>
    obtain ⟨hle, hlt⟩ := ih
    rw [signed_escape rest h, pieces_escape rest h, inert_escape_cons]
    by_cases hsign : high = '+'
    · subst hsign
      have hliteral : Literal hexPair? '%' ('+' :: low :: rest) := by
        rintro - high' low' rest' heq
        rw [← (List.cons.inj heq).1, hexPair?_plus]
      have hlow := (isDigitLike_of_signedPair? h).2.ne_percent
      have hpercent : isInert '%' = true := by decide
      rw [pieces_cons hliteral, pieces_cons (literal_of_ne (by decide) _),
        pieces_cons (literal_of_ne hlow _), inert_plain_cons, inert_plain_cons, inert_plain_cons,
        isInert_of_plus h, if_pos hpercent, if_neg Bool.false_ne_true]
      omega
    · have hhex : hexPair? high low = some byte := signedPair?_of_ne hsign low ▸ h
      rw [pieces_escape rest hhex, inert_escape_cons, or_iff_right hsign]
      exact ⟨Nat.add_le_add_left hle _, fun hs => Nat.add_lt_add_left (hlt hs) _⟩
  | plain c cs h ih =>
    obtain ⟨hle, hlt⟩ := ih
    have hliteral : Literal hexPair? c cs := fun hc high low rest heq =>
      hexPair?_eq_none (h hc high low rest heq)
    rw [signed_cons h, pieces_cons h, pieces_cons hliteral, inert_plain_cons, inert_plain_cons]
    exact ⟨Nat.add_le_add_left hle _, fun hs => Nat.add_lt_add_left (hlt hs) _⟩

/-- A segment is decoded as if its signs were zeros, and so as it should be exactly if it has no
sign. -/
theorem percentDecode_eq_plainDecode_iff (segment : String) :
    percentDecode segment = plainDecode (String.ofList (unsigned segment.toList))
      ∧ (percentDecode segment = plainDecode segment ↔ ¬ Signed segment.toList) := by
  have hunsigned : percentDecode segment
      = plainDecode (String.ofList (unsigned segment.toList)) := by
    rw [percentDecode_eq_textOf, plainDecode_eq_textOf, String.toList_ofList, pieces_unsigned]
  refine ⟨hunsigned, fun heq hsigned => ?_, fun h => ?_⟩
  · have hlt := (inert_pieces_signed segment.toList).2 hsigned
    rw [← countP_textOf, ← countP_textOf, ← percentDecode_eq_textOf, ← plainDecode_eq_textOf,
      heq] at hlt
    exact Nat.lt_irrefl _ hlt
  · rw [hunsigned, unsigned_eq_self h, String.ofList_toList]

/-- The plus sign is taken for a zero. -/
theorem exists_misread : ∃ segment, percentDecode segment ≠ plainDecode segment :=
  ⟨"50%+5", by decide +kernel⟩

end OpenApiTypes.Pointer
