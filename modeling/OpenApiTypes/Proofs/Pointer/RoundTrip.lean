/-
Keys that come back.

* `Pointer.unescape_escape_of_not_escaped`: a key without percent escapes comes back from its
  segment;
* `Pointer.pieces_escape_eq`: the escapes of a key are still escapes in its segment;
  `Pointer.unescape_escape_ne`: so a key that has any does not come back;
* `Pointer.schemaName?_schema_iff`: which names of components are those that their pointers are read
  as, and the only ones that are looked up under their own name; `Pointer.exists_renamed`: not all
  of them.
-/
import OpenApiTypes.Model.Catalog
import OpenApiTypes.Proofs.Pointer
import OpenApiTypes.Proofs.Pointer.Percent

namespace OpenApiTypes.Pointer

open OpenApiTypes.Text

/-! ### Escapes in segments -/

lemma escapeChar_of_ne {c : Char} (htilde : c ≠ '~') (hslash : c ≠ '/') : escapeChar c = [c] := by
  rw [escapeChar, if_neg htilde, if_neg hslash]

lemma escapeChar_of_digitLike {c : Char} (h : IsDigitLike c) : escapeChar c = [c] :=
  escapeChar_of_ne h.ne_tilde h.ne_slash

lemma exists_of_flatMap_eq_cons {cs rest : List Char} {c : Char} (hc : c ≠ '~')
    (h : cs.flatMap escapeChar = c :: rest) :
    ∃ ds, cs = c :: ds ∧ ds.flatMap escapeChar = rest := by
  cases cs with
  | nil => simp at h
  | cons d ds =>
    rw [List.flatMap_cons, escapeChar] at h
    split_ifs at h
    · exact absurd (List.cons.inj h).1.symm hc
    · exact absurd (List.cons.inj h).1.symm hc
    · obtain ⟨rfl, hrest⟩ := List.cons.inj h
      exact ⟨ds, rfl, hrest⟩

/-- Where no escape begins in a key, none begins in its segment. -/
lemma literal_flatMap {c : Char} {cs : List Char} (h : Literal signedPair? c cs) :
    Literal signedPair? c (cs.flatMap escapeChar) := by
  intro hc high low rest hcs
  refine Option.eq_none_iff_forall_ne_some.mpr fun byte hbyte => ?_
  obtain ⟨hhigh, hlow⟩ := isDigitLike_of_signedPair? hbyte
  obtain ⟨ds, rfl, hds⟩ := exists_of_flatMap_eq_cons hhigh.ne_tilde hcs
  obtain ⟨es, rfl, -⟩ := exists_of_flatMap_eq_cons hlow.ne_tilde hds
  simp [h hc high low es rfl] at hbyte

/-- A piece of a key inside a segment. -/
def Piece.escaped : Piece → List Piece
  | plain c => (escapeChar c).map plain
  | escape byte => [escape byte]

/-- The escapes of a key are still escapes in its segment. -/
lemma pieces_escape_eq (cs : List Char) : pieces signedPair? (cs.flatMap escapeChar)
    = (pieces signedPair? cs).flatMap Piece.escaped := by
  induction cs using pieces_induction signedPair? with
  | nil => rfl
  | escape high low rest byte h ih =>
    obtain ⟨hhigh, hlow⟩ := isDigitLike_of_signedPair? h
    have hsegment : ('%' :: high :: low :: rest).flatMap escapeChar
        = '%' :: high :: low :: rest.flatMap escapeChar := by
      rw [List.flatMap_cons, List.flatMap_cons, List.flatMap_cons, escapeChar_of_digitLike hhigh,
        escapeChar_of_digitLike hlow]
      rfl
    rw [hsegment, pieces_escape _ h, pieces_escape rest h, ih]
    rfl
  | plain c cs h ih =>
    rw [pieces_cons h, List.flatMap_cons, List.flatMap_cons, ← ih, Piece.escaped]
    by_cases hc : escapeChar c = [c]
    · rw [hc]
      exact pieces_cons (literal_flatMap h)
    · obtain ⟨d, hd, heq⟩ : ∃ d, d ≠ '%' ∧ escapeChar c = ['~', d] := by
        unfold escapeChar at hc ⊢
        split_ifs at hc ⊢
        · exact ⟨'0', by decide, rfl⟩
        · exact ⟨'1', by decide, rfl⟩
        · exact absurd rfl hc
      rw [heq, List.cons_append, pieces_cons (literal_of_ne (by decide) _), List.singleton_append,
        pieces_cons (literal_of_ne hd _)]
      rfl

/-- A key without percent escapes comes back from its segment. -/
lemma unescape_escape_of_not_escaped {key : String} (h : ¬ Escaped key.toList) :
    unescape (escape key) = key := by
  have hpieces : (key.toList.map Piece.plain).flatMap Piece.escaped
      = (escape key).toList.map Piece.plain := by
    rw [toList_escape, List.flatMap_map, List.map_flatMap]
    rfl
  have hdecoded : percentDecode (escape key) = escape key := by
    rw [percentDecode_eq_textOf, toList_escape, pieces_escape_eq, pieces_of_not_escaped h, hpieces,
      textOf_plain, String.ofList_toList]
  rw [unescape, hdecoded, replace_escape]

/-! ### Keys that are changed -/

/-- A segment has the inert characters of its key. -/
lemma inert_escaped (ps : List Piece) : inert (ps.flatMap Piece.escaped) = inert ps := by
  induction ps with
  | nil => rfl
  | cons p ps ih =>
    rw [List.flatMap_cons, inert_append, ih]
    cases p with
    | escape byte => simp [Piece.escaped, inert]
    | plain c =>
      have hchar : inert ((escapeChar c).map Piece.plain) = inert [.plain c] := by
        unfold escapeChar
        split_ifs with htilde hslash
        · subst htilde
          rfl
        · subst hslash
          rfl
        · rfl
      rw [Piece.escaped, hchar, ← inert_append, List.singleton_append]

/-- What is read of a segment has as many inert characters as the pieces of its key stand for. -/
lemma countP_unescape (key : String) :
    (unescape (escape key)).toList.countP isInert = inert (pieces signedPair? key.toList) := by
  rw [unescape, countP_replace (by decide), countP_replace (by decide), percentDecode_eq_textOf,
    countP_textOf, toList_escape, pieces_escape_eq, inert_escaped]

/-- Two digits are not inert. -/
lemma eq_of_isInert_eq_false {c : Char} (h : IsDigitLike c) (hinert : isInert c = false) :
    c = '0' ∨ c = '1' := by
  obtain ⟨hlow, hhigh, -, htilde, hslash⟩ := h
  by_contra hne
  obtain ⟨hzero, hone⟩ := not_or.mp hne
  simp [isInert, hlow, hhigh, htilde, hslash, hzero, hone] at hinert

/-- An escape stands for fewer inert characters than it is made of. -/
lemma inert_lt_of_signedPair? {high low : Char} {byte : UInt8}
    (h : signedPair? high low = some byte) :
    (if isInert (Char.ofNat byte.toNat) then 1 else 0) < ['%', high, low].countP isInert := by
  have hpercent : isInert '%' = true := by decide
  have hcount : ['%', high, low].countP isInert
      = 1 + (if isInert high then 1 else 0) + (if isInert low then 1 else 0) := by
    rw [List.countP_cons, List.countP_cons, List.countP_singleton, if_pos hpercent]
    omega
  have hone : (if isInert (Char.ofNat byte.toNat) then 1 else 0) ≤ 1 := by split_ifs <;> simp
  rw [hcount]
  by_cases hinert : isInert high = true ∨ isInert low = true
  · rcases hinert with hinert | hinert <;> rw [if_pos hinert] <;> omega
  · -- Only two digits are left, and they make control characters.
    obtain ⟨hhigh, hlow⟩ := not_or.mp hinert
    obtain ⟨hhigh', hlow'⟩ := isDigitLike_of_signedPair? h
    have hcontrol : isInert (Char.ofNat byte.toNat) = false := by
      rcases eq_of_isInert_eq_false hhigh' (by simpa using hhigh) with rfl | rfl <;>
        rcases eq_of_isInert_eq_false hlow' (by simpa using hlow) with rfl | rfl <;>
        obtain rfl := Option.some.inj h <;> decide
    rw [hcontrol, if_neg Bool.false_ne_true]
    omega

lemma inert_pieces_lt (cs : List Char) : inert (pieces signedPair? cs) ≤ cs.countP isInert
      ∧ (Escaped cs → inert (pieces signedPair? cs) < cs.countP isInert) := by
  induction cs using pieces_induction signedPair? with
  | nil => exact ⟨Nat.le_refl _, fun h => absurd h not_occurs_nil⟩
  | escape high low rest byte h ih =>
    have hlt : inert (pieces signedPair? ('%' :: high :: low :: rest))
        < ('%' :: high :: low :: rest).countP isInert := by
      calc inert (pieces signedPair? ('%' :: high :: low :: rest))
          = (if isInert (Char.ofNat byte.toNat) then 1 else 0)
              + inert (pieces signedPair? rest) := by
            rw [pieces_escape rest h, inert_escape_cons]
        _ < ['%', high, low].countP isInert + rest.countP isInert :=
            Nat.add_lt_add_of_lt_of_le (inert_lt_of_signedPair? h) ih.1
        _ = ('%' :: high :: low :: rest).countP isInert := List.countP_append.symm
    exact ⟨hlt.le, fun _ => hlt⟩
  | plain c cs h ih =>
    rw [escaped_cons h, pieces_cons h, inert_plain_cons, List.countP_cons, Nat.add_comm]
    exact ⟨Nat.add_le_add_right ih.1 _, fun hs => Nat.add_lt_add_right (ih.2 hs) _⟩

/-- A key with a percent escape does not come back from its segment. -/
lemma unescape_escape_ne {key : String} (h : Escaped key.toList) : unescape (escape key) ≠ key := by
  intro heq
  have hlt := (inert_pieces_lt key.toList).2 h
  rw [← countP_unescape, heq] at hlt
  exact Nat.lt_irrefl _ hlt

lemma unescape_escape_iff (key : String) : unescape (escape key) = key ↔ ¬ Escaped key.toList :=
  ⟨fun heq h => unescape_escape_ne h heq, unescape_escape_of_not_escaped⟩

/-! ### Names of components -/

lemma escape_ne_empty {key : String} (h : key ≠ "") : escape key ≠ "" :=
  replace_ne_empty (by decide) (replace_ne_empty (by decide) h)

/-- The name that the pointer of a component is read as. -/
lemma schemaName?_schema {name : String} (h : name ≠ "") :
    schemaName? (schema name) = some (unescape (escape name)) := by
  obtain ⟨c, cs, hchars⟩ := List.exists_cons_of_ne_nil
    (String.toList_eq_nil_iff.not.mpr (escape_ne_empty h))
  have hslash : (c :: cs).contains '/' = false := by
    simpa [hchars] using not_mem_escape name
  rw [schemaName?, schema, String.toList_append, stripPrefix?_append, hchars]
  simp only [hslash, Bool.false_eq_true, if_false]
  rw [← hchars, String.ofList_toList]

lemma lastName_schema (name : String) : lastName (schema name) = unescape (escape name) :=
  lastName_append "#/components/schemas" name

/-- Which names of components are those that their pointers are read as, and the only ones that
are looked up under their own name. -/
theorem schemaName?_schema_iff {name : String} (h : name ≠ "") :
    (schemaName? (schema name) = some name ↔ ¬ Escaped name.toList)
      ∧ (lastName (schema name) = name ↔ ¬ Escaped name.toList)
      ∧ ((∀ catalog : Model.Catalog, catalog.find? (schema name) = Entries.get? catalog name)
        ↔ ¬ Escaped name.toList) := by
  have hname := schemaName?_schema h
  refine ⟨?_, ?_, fun hfind hescaped => ?_, fun hescaped catalog => ?_⟩
  · rw [hname, Option.some.injEq, unescape_escape_iff]
  · rw [lastName_schema, unescape_escape_iff]
  · have hfound := hfind [(name, {})]
    rw [Model.Catalog.find?, hname] at hfound
    have hne : (unescape (escape name) == name) = false :=
      beq_eq_false_iff_ne.mpr (unescape_escape_ne hescaped)
    simp [Entries.get?, List.lookup_cons, hne] at hfound
  · rw [Model.Catalog.find?, hname, unescape_escape_of_not_escaped hescaped]
    rfl

theorem schemaName?_schema_percentage :
    "a~1/b 50%é" ≠ "" ∧ schemaName? (schema "a~1/b 50%é") = some "a~1/b 50%é"
      ∧ lastName (schema "a~1/b 50%é") = "a~1/b 50%é"
      ∧ ∀ catalog : Model.Catalog,
        catalog.find? (schema "a~1/b 50%é") = Entries.get? catalog "a~1/b 50%é" := by
  have hne : "a~1/b 50%é" ≠ "" := by decide
  obtain ⟨hname, hlast, hfind⟩ := schemaName?_schema_iff hne
  have hread : schemaName? (schema "a~1/b 50%é") = some "a~1/b 50%é" := by decide +kernel
  have hescaped := hname.mp hread
  exact ⟨hne, hread, hlast.mpr hescaped, hfind.mpr hescaped⟩

/-- The name of a component that is a percent escape is decoded in its pointer. -/
theorem exists_renamed : ∃ name, name ≠ "" ∧ schemaName? (schema name) ≠ some name :=
  ⟨"%41", by decide, by decide +kernel⟩

end OpenApiTypes.Pointer
