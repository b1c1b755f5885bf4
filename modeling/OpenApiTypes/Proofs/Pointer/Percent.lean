/-
Percent escapes.

* `Pointer.hexPair?`, `Pointer.signedPair?`: the byte that two hexadecimal digits denote, and the
  byte that is read from two characters: a plus sign is taken for the digit zero;
* `Pointer.scan`: the bytes of a segment read from left to right;
* `Pointer.pieces`: the characters and escapes a text consists of; `Pointer.scan_encode`: reading
  bytes and reading characters comes to the same;
* `Pointer.Escaped`: an escape stands in a text; `Pointer.pieces_of_not_escaped`: without one, a
  text consists of its characters;
* `Pointer.percentDecode_eq_textOf`: decoding a segment gives the text that its pieces stand for;
* `Pointer.countP_textOf`: characters that have no part in the escapes of keys can be counted in the
  pieces.
-/
import OpenApiTypes.Proofs.Pointer
import OpenApiTypes.Proofs.Text.Utf8
import Mathlib.Data.List.Infix

namespace OpenApiTypes.Pointer

open OpenApiTypes.Text

/-! ### Escapes -/

/-- The byte that two hexadecimal digits denote. -/
def hexPair? (high low : Char) : Option UInt8 := do
  return UInt8.ofNat ((← hexDigit? high) * 16 + (← hexDigit? low))

/-- The byte that is read from two characters after a percent sign. -/
def signedPair? (high low : Char) : Option UInt8 :=
  hexPair? (if high = '+' then '0' else high) low

/-- Hexadecimal digits are characters of ASCII, and there are sixteen of them. -/
lemma hexDigit?_bounds {c : Char} {n : ℕ} (h : hexDigit? c = some n) :
    n < 16 ∧ 0x30 ≤ c.toNat ∧ c.toNat < 0x67 := by
  have hcode : c.toNat = c.val.toNat := rfl
  unfold hexDigit? at h
  simp only [Char.isDigit, Bool.and_eq_true, decide_eq_true_eq, ge_iff_le, Char.le_def,
    UInt32.le_iff_toNat_le] at h
  split_ifs at h with hdigit hsmall hcapital
  · change 48 ≤ c.val.toNat ∧ c.val.toNat ≤ 57 at hdigit
    change some (c.toNat - 48) = some n at h
    simp only [Option.some.injEq] at h
    omega
  · change 97 ≤ c.val.toNat ∧ c.val.toNat ≤ 102 at hsmall
    change some (c.toNat - 97 + 10) = some n at h
    simp only [Option.some.injEq] at h
    omega
  · change 65 ≤ c.val.toNat ∧ c.val.toNat ≤ 70 at hcapital
    change some (c.toNat - 65 + 10) = some n at h
    simp only [Option.some.injEq] at h
    omega

lemma hexPair?_eq_some_iff {high low : Char} {byte : UInt8} : hexPair? high low = some byte ↔
    ∃ m n, hexDigit? high = some m ∧ hexDigit? low = some n ∧ UInt8.ofNat (m * 16 + n) = byte := by
  simp only [hexPair?, bind, pure, Option.bind_eq_some_iff, Option.some.injEq]
  constructor
  · rintro ⟨m, hm, n, hn, rfl⟩
    exact ⟨m, n, hm, hn, rfl⟩
  · rintro ⟨m, n, hm, hn, rfl⟩
    exact ⟨m, hm, n, hn, rfl⟩

/-- The characters after the percent sign of an escape are graphic characters of ASCII, and no
percent signs, tildes or slashes. -/
structure IsDigitLike (c : Char) : Prop where
  graphic : 0x20 ≤ c.toNat
  ascii : c.toNat < 0x80
  ne_percent : c ≠ '%'
  ne_tilde : c ≠ '~'
  ne_slash : c ≠ '/'

lemma isDigitLike_of_hexDigit? {c : Char} {n : ℕ} (h : hexDigit? c = some n) : IsDigitLike c := by
  obtain ⟨-, hlow, hhigh⟩ := hexDigit?_bounds h
  refine ⟨by omega, by omega, ?_, ?_, ?_⟩ <;> rintro rfl <;> simp [hexDigit?] at h

lemma isDigitLike_of_signedPair? {high low : Char} {byte : UInt8}
    (h : signedPair? high low = some byte) : IsDigitLike high ∧ IsDigitLike low := by
  obtain ⟨m, n, hm, hn, -⟩ := hexPair?_eq_some_iff.mp h
  refine ⟨?_, isDigitLike_of_hexDigit? hn⟩
  split_ifs at hm with hsign
  · subst hsign
    constructor <;> decide
  · exact isDigitLike_of_hexDigit? hm

/-! ### Bytes -/

/-- Bytes read from left to right: after a percent sign, two characters that denote a byte stand
for that byte. Every other byte stands for itself. -/
def scan (value? : Char → Char → Option UInt8) : List UInt8 → List UInt8
  | [] => []
  | b :: high :: low :: rest =>
    if b = 0x25 then
      match value? (Char.ofNat high.toNat) (Char.ofNat low.toNat) with
      | some byte => byte :: scan value? rest
      | none => b :: scan value? (high :: low :: rest)
    else b :: scan value? (high :: low :: rest)
  | b :: rest => b :: scan value? rest

variable {value? : Char → Char → Option UInt8}

lemma scan_escape {high low byte : UInt8} (rest : List UInt8)
    (h : value? (Char.ofNat high.toNat) (Char.ofNat low.toNat) = some byte) :
    scan value? (0x25 :: high :: low :: rest) = byte :: scan value? rest := by
  rw [scan, if_pos rfl, h]

/-- A byte that begins no escape. -/
lemma scan_cons {b : UInt8} {bytes : List UInt8} (h : b = 0x25 → ∀ high low rest,
      bytes = high :: low :: rest → value? (Char.ofNat high.toNat) (Char.ofNat low.toNat) = none) :
    scan value? (b :: bytes) = b :: scan value? bytes := by
  match bytes, h with
  | [], _ => rfl
  | [_], _ => rfl
  | high :: low :: rest, h =>
    rw [scan]
    split_ifs with hb
    · rw [h hb high low rest rfl]
    · rfl

lemma scan_append {front : List UInt8} (h : ∀ b ∈ front, b ≠ 0x25) (bytes : List UInt8) :
    scan value? (front ++ bytes) = front ++ scan value? bytes := by
  induction front with
  | nil => rfl
  | cons b front ih =>
    obtain ⟨hb, hfront⟩ := List.forall_mem_cons.mp h
    rw [List.cons_append, scan_cons fun heq => absurd heq hb, ih hfront, List.cons_append]

/-! ### Pieces -/

/-- A piece of a text: a character, or an escape with the byte that it denotes. -/
inductive Piece where
  | plain (c : Char)
  | escape (byte : UInt8)

/-- The bytes that a piece stands for. -/
def Piece.bytes : Piece → List UInt8
  | plain c => String.utf8EncodeChar c
  | escape byte => [byte]

/-- The pieces of a text. -/
def pieces (value? : Char → Char → Option UInt8) : List Char → List Piece
  | [] => []
  | c :: high :: low :: rest =>
    if c = '%' then
      match value? high low with
      | some byte => .escape byte :: pieces value? rest
      | none => .plain c :: pieces value? (high :: low :: rest)
    else .plain c :: pieces value? (high :: low :: rest)
  | c :: rest => .plain c :: pieces value? rest

/-- No escape begins with a character and the text after it. -/
def Literal (value? : Char → Char → Option UInt8) (c : Char) (cs : List Char) : Prop :=
  c = '%' → ∀ high low rest, cs = high :: low :: rest → value? high low = none

lemma literal_of_ne {c : Char} (h : c ≠ '%') (cs : List Char) : Literal value? c cs :=
  fun heq => absurd heq h

lemma pieces_escape {high low : Char} {byte : UInt8} (rest : List Char)
    (h : value? high low = some byte) :
    pieces value? ('%' :: high :: low :: rest) = .escape byte :: pieces value? rest := by
  rw [pieces, if_pos rfl, h]

lemma pieces_cons {c : Char} {cs : List Char} (h : Literal value? c cs) :
    pieces value? (c :: cs) = .plain c :: pieces value? cs := by
  match cs, h with
  | [], _ => rfl
  | [_], _ => rfl
  | high :: low :: rest, h =>
    rw [pieces]
    split_ifs with hc
    · rw [h hc high low rest rfl]
    · rfl

/-- What holds of the empty text, and of a text if it holds of what comes after its first piece,
holds of every text. -/
@[elab_as_elim]
lemma pieces_induction (value? : Char → Char → Option UInt8) {motive : List Char → Prop}
    (nil : motive [])
    (escape : ∀ high low rest byte, value? high low = some byte → motive rest →
      motive ('%' :: high :: low :: rest))
    (plain : ∀ c cs, Literal value? c cs → motive cs → motive (c :: cs)) (cs : List Char) :
    motive cs := by
  induction cs using pieces.induct value? with
  | case1 => exact nil
  | case2 high low rest byte h ih => exact escape high low rest byte h ih
  | case3 high low rest h ih =>
    refine plain _ _ (fun _ high' low' rest' heq => ?_) ih
    obtain ⟨rfl, rfl, rfl⟩ : high = high' ∧ low = low' ∧ rest = rest' := by simpa using heq
    exact h
  | case4 c high low rest hc ih => exact plain c _ (literal_of_ne hc _) ih
  | case5 c cs hshort ih =>
    exact plain c cs (fun _ high low rest heq => absurd heq (hshort high low rest)) ih

/-- An escape among bytes is an escape among characters. -/
lemma exists_of_encode_eq_cons_cons {cs : List Char} {high low : UInt8} {rest : List UInt8}
    (h : Utf8.encode cs = high :: low :: rest) (hhigh : (Char.ofNat high.toNat).toNat < 0x80)
    (hlow : (Char.ofNat low.toNat).toNat < 0x80) :
    ∃ ds, cs = Char.ofNat high.toNat :: Char.ofNat low.toNat :: ds := by
  rw [Utf8.toNat_ofNat_toNat] at hhigh hlow
  obtain ⟨ds, rfl, htail⟩ := Utf8.exists_of_encode_eq_cons h hhigh
  obtain ⟨es, rfl, -⟩ := Utf8.exists_of_encode_eq_cons htail.symm hlow
  exact ⟨es, rfl⟩

/-- Reading bytes and reading characters comes to the same. -/
lemma scan_encode (hvalue : ∀ high low byte, value? high low = some byte →
      high.toNat < 0x80 ∧ low.toNat < 0x80) (cs : List Char) :
    scan value? (Utf8.encode cs) = (pieces value? cs).flatMap Piece.bytes := by
  induction cs using pieces_induction value? with
  | nil => rfl
  | escape high low rest byte h ih =>
    obtain ⟨hhigh, hlow⟩ := hvalue high low byte h
    have hbytes : Utf8.encode ('%' :: high :: low :: rest)
        = 0x25 :: UInt8.ofNat high.toNat :: UInt8.ofNat low.toNat :: Utf8.encode rest := by
      simp [Utf8.encode, Utf8.encodeChar_of_lt hhigh, Utf8.encodeChar_of_lt hlow,
        Utf8.encodeChar_of_lt (c := '%') (by decide)]
    have hvalue' : value? (Char.ofNat (UInt8.ofNat high.toNat).toNat)
        (Char.ofNat (UInt8.ofNat low.toNat).toNat) = some byte := by
      rw [Utf8.ofNat_toNat_ofNat hhigh, Utf8.ofNat_toNat_ofNat hlow, h]
    rw [hbytes, scan_escape _ hvalue', pieces_escape _ h, ih]
    rfl
  | plain c cs hliteral ih =>
    rw [pieces_cons hliteral, List.flatMap_cons, ← ih, Utf8.encode, List.flatMap_cons,
      ← Utf8.encode, Piece.bytes]
    by_cases hc : c = '%'
    · subst hc
      have hpercent : String.utf8EncodeChar '%' = [0x25] := rfl
      rw [hpercent, List.singleton_append, scan_cons, List.singleton_append]
      intro _ high low rest hrest
      refine Option.eq_none_iff_forall_ne_some.mpr fun byte hbyte => ?_
      obtain ⟨hhigh, hlow⟩ := hvalue _ _ byte hbyte
      obtain ⟨ds, rfl⟩ := exists_of_encode_eq_cons_cons hrest hhigh hlow
      simp [hliteral rfl _ _ _ rfl] at hbyte
    · refine scan_append (fun b hb hpercent => hc ?_) _
      subst hpercent
      exact Utf8.eq_of_mem_encodeChar hb (by decide)

lemma signedPair?_ascii {high low : Char} {byte : UInt8} (h : signedPair? high low = some byte) :
    high.toNat < 0x80 ∧ low.toNat < 0x80 := by
  obtain ⟨hhigh, hlow⟩ := isDigitLike_of_signedPair? h
  exact ⟨hhigh.ascii, hlow.ascii⟩

/-! ### Places of escapes -/

/-- A percent sign stands before two characters of some kind. -/
def Occurs (kind : Char → Char → Prop) (cs : List Char) : Prop :=
  ∃ high low, kind high low ∧ ['%', high, low] <:+: cs

section

variable {kind : Char → Char → Prop}

lemma not_occurs_nil : ¬ Occurs kind [] := by
  rintro ⟨high, low, -, hoccurs⟩
  simpa using hoccurs.length_le

lemma occurs_cons_iff {c : Char} {cs : List Char} : Occurs kind (c :: cs) ↔
    (c = '%' ∧ ∃ high low, kind high low ∧ [high, low] <+: cs) ∨ Occurs kind cs := by
  simp only [Occurs, List.infix_cons_iff, List.cons_prefix_cons]
  constructor
  · rintro ⟨high, low, hkind, ⟨rfl, hcs⟩ | hcs⟩
    · exact .inl ⟨rfl, high, low, hkind, hcs⟩
    · exact .inr ⟨high, low, hkind, hcs⟩
  · rintro (⟨rfl, high, low, hkind, hcs⟩ | ⟨high, low, hkind, hcs⟩)
    · exact ⟨high, low, hkind, .inl ⟨rfl, hcs⟩⟩
    · exact ⟨high, low, hkind, .inr hcs⟩

lemma not_occurs_of_not_mem {cs : List Char} (h : '%' ∉ cs) : ¬ Occurs kind cs := by
  rintro ⟨high, low, -, hoccurs⟩
  exact h (hoccurs.subset List.mem_cons_self)

variable (hkind : ∀ high low, kind high low → (signedPair? high low).isSome)

include hkind

lemma occurs_cons {c : Char} {cs : List Char} (h : Literal signedPair? c cs) :
    Occurs kind (c :: cs) ↔ Occurs kind cs := by
  refine occurs_cons_iff.trans (or_iff_right ?_)
  rintro ⟨hc, high, low, hpair, rest, rfl⟩
  have hsome := hkind high low hpair
  simp [h hc high low rest rfl] at hsome

lemma occurs_escape {high low : Char} {byte : UInt8} (rest : List Char)
    (h : signedPair? high low = some byte) :
    Occurs kind ('%' :: high :: low :: rest) ↔ kind high low ∨ Occurs kind rest := by
  obtain ⟨hhigh, hlow⟩ := isDigitLike_of_signedPair? h
  rw [occurs_cons_iff, occurs_cons hkind (literal_of_ne hhigh.ne_percent _),
    occurs_cons hkind (literal_of_ne hlow.ne_percent _)]
  refine or_congr_left ⟨?_, fun hpair => ⟨rfl, high, low, hpair, rest, rfl⟩⟩
  rintro ⟨-, high', low', hpair, rest', heq⟩
  obtain ⟨rfl, rfl, -⟩ : high' = high ∧ low' = low ∧ rest' = rest := by simpa using heq
  exact hpair

end

/-- An escape stands in a text. -/
def Escaped (cs : List Char) : Prop := Occurs (fun high low => (signedPair? high low).isSome) cs

lemma escaped_cons {c : Char} {cs : List Char} (h : Literal signedPair? c cs) :
    Escaped (c :: cs) ↔ Escaped cs :=
  occurs_cons (fun _ _ => id) h

lemma escaped_escape {high low : Char} {byte : UInt8} (rest : List Char)
    (h : signedPair? high low = some byte) : Escaped ('%' :: high :: low :: rest) :=
  (occurs_escape (fun _ _ => id) rest h).mpr (.inl (h ▸ rfl))

/-- A text without escapes consists of its characters. -/
lemma pieces_of_not_escaped {cs : List Char} (h : ¬ Escaped cs) :
    pieces signedPair? cs = cs.map Piece.plain := by
  induction cs using pieces_induction signedPair? with
  | nil => rfl
  | escape high low rest byte hbyte ih => exact absurd (escaped_escape rest hbyte) h
  | plain c cs hliteral ih =>
    rw [pieces_cons hliteral, ih ((escaped_cons hliteral).not.mp h), List.map_cons]

/-! ### What is read -/

lemma escapedByte?_eq (high low : UInt8) :
    escapedByte? high low = signedPair? (Char.ofNat high.toNat) (Char.ofNat low.toNat) := by
  have hplus : Char.ofNat high.toNat = '+' ↔ high = 0x2B := Utf8.ofNat_toNat_eq_iff (d := 0x2B)
  have hzero : hexDigit? '0' = some 0 := rfl
  simp only [escapedByte?, signedPair?, hexPair?, hplus]
  split_ifs
  · simp [hzero]
  · cases hexDigit? (Char.ofNat high.toNat) <;> cases hexDigit? (Char.ofNat low.toNat) <;> rfl

lemma decodeBytes_eq_scan (bytes : List UInt8) : decodeBytes bytes = scan signedPair? bytes := by
  fun_induction decodeBytes bytes with
  | case1 => rfl
  | case2 high low rest byte hbyte ih =>
    rw [scan_escape rest (escapedByte?_eq high low ▸ hbyte), ih]
  | case3 high low rest hnone ih =>
    rw [ih]
    refine (scan_cons fun _ high' low' rest' heq => ?_).symm
    obtain ⟨rfl, rfl, rfl⟩ : high = high' ∧ low = low' ∧ rest = rest' := by simpa using heq
    rw [← escapedByte?_eq, hnone]
  | case4 b high low rest hb ih => rw [ih, scan_cons fun heq => absurd heq hb]
  | case5 b rest hshort ih =>
    rw [ih, scan_cons fun _ high low rest' heq => absurd heq (hshort high low rest')]

/-- The text that pieces stand for. -/
def textOf (ps : List Piece) : String :=
  String.ofList (Utf8.decodeLossy (ps.flatMap Piece.bytes))

lemma textOf_plain (cs : List Char) : textOf (cs.map Piece.plain) = String.ofList cs := by
  have hbytes : (cs.map Piece.plain).flatMap Piece.bytes = Utf8.encode cs := List.flatMap_map ..
  rw [textOf, hbytes, Utf8.decodeLossy_encode]

lemma percentDecode_eq_textOf (segment : String) :
    percentDecode segment = textOf (pieces signedPair? segment.toList) := by
  unfold percentDecode
  split_ifs with hpercent
  · rw [decodeBytes_eq_scan, scan_encode fun _ _ _ => signedPair?_ascii, textOf]
  · have hnot : ¬ Escaped segment.toList := not_occurs_of_not_mem (by simpa using hpercent)
    rw [pieces_of_not_escaped hnot, textOf_plain, String.ofList_toList]

/-! ### Characters that are counted -/

/-- A graphic character of ASCII that has no part in the escapes of keys. -/
def isInert (c : Char) : Bool :=
  0x20 ≤ c.toNat && c.toNat < 0x80 && c != '~' && c != '/' && c != '0' && c != '1'

lemma isInert_bounds (c : Char) (h : isInert c = true) : 0 < c.toNat ∧ c.toNat < 0x80 := by
  simp only [isInert, Bool.and_eq_true, decide_eq_true_eq] at h
  omega

/-- How many inert characters pieces stand for. -/
def inert (ps : List Piece) : ℕ :=
  (ps.flatMap Piece.bytes).countP fun b => isInert (Char.ofNat b.toNat)

lemma countP_textOf (ps : List Piece) : (textOf ps).toList.countP isInert = inert ps := by
  rw [textOf, String.toList_ofList, Utf8.countP_decodeLossy isInert_bounds, inert]

lemma inert_append (ps qs : List Piece) : inert (ps ++ qs) = inert ps + inert qs := by
  rw [inert, List.flatMap_append, List.countP_append, inert, inert]

lemma inert_plain_cons (c : Char) (ps : List Piece) :
    inert (.plain c :: ps) = (if isInert c then 1 else 0) + inert ps := by
  have hcount := countP_textOf [.plain c]
  rw [← List.map_singleton, textOf_plain, String.toList_ofList, List.countP_singleton,
    List.map_singleton] at hcount
  rw [← List.singleton_append, inert_append, hcount]

lemma inert_escape_cons (byte : UInt8) (ps : List Piece) : inert (.escape byte :: ps)
    = (if isInert (Char.ofNat byte.toNat) then 1 else 0) + inert ps := by
  have hcount : inert [.escape byte] = if isInert (Char.ofNat byte.toNat) then 1 else 0 :=
    List.countP_singleton ..
  rw [← List.singleton_append, inert_append, hcount]

end OpenApiTypes.Pointer
