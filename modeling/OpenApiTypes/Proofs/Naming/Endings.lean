/-
What names end in.

* `Pointer.Lasting`: letters of which the first is no hexadecimal digit;
  `Pointer.Lasting.suffix_lastName`: a pointer that ends in such letters has a key that does,
  whatever is decoded before them;
* `Naming.EndsIn`: a text ends in one of some letters, `Naming.KeptLetters`: letters that are among
  each other's capitals and small letters;
* `NamingConvention.endsIn_apply`: under every convention, a name that ends in one of such letters
  still does;
* `Output.Registry.stem`: a name without the number at its end, `Output.Registry.stem_uniqueName`:
  the name that is given for a reference has the stem of the one that it asks for.
-/
import OpenApiTypes.Proofs.Output.Registry
import OpenApiTypes.Proofs.Pointer.Percent
import Mathlib.Data.List.DropRight

namespace OpenApiTypes

/-! ### Escapes -/

namespace Pointer

open OpenApiTypes.Text (hexDigit?)

/-- Letters of which the first is no hexadecimal digit. -/
structure Lasting (ds : List Char) : Prop where
  letters : ∀ d ∈ ds, d.isAlpha = true
  head : ∀ c ∈ ds.head?, hexDigit? c = none

instance (ds : List Char) : Decidable (Lasting ds) :=
  decidable_of_iff (ds.all Char.isAlpha && ds.head?.all fun c => (hexDigit? c).isNone) <| by
    simp only [Bool.and_eq_true, List.all_eq_true, Option.all_eq_true, Option.isNone_iff_eq_none]
    exact ⟨fun h => ⟨h.1, h.2⟩, fun h => ⟨h.letters, h.head⟩⟩

variable {ds : List Char} (h : Lasting ds)
include h

lemma Lasting.ne {d : Char} (hd : d ∈ ds) :
    d ≠ '%' ∧ d ≠ '~' ∧ d ≠ '/' ∧ d ≠ '+' ∧ d ≠ '0' ∧ d ≠ '1' := by
  have hletter := h.letters d hd
  refine ⟨?_, ?_, ?_, ?_, ?_, ?_⟩ <;> rintro rfl <;> exact absurd hletter (by decide)

/-- The first of the letters belongs to no escape. -/
lemma Lasting.signedPair?_eq_none {c : Char} (hc : c ∈ ds.head?) (d : Char) :
    signedPair? c d = none ∧ signedPair? d c = none := by
  have hplus : c ≠ '+' := (h.ne (List.mem_of_mem_head? hc)).2.2.2.1
  constructor
  · simp [signedPair?, hexPair?, hplus, h.head c hc]
  · rw [Option.eq_none_iff_forall_ne_some]
    intro byte hbyte
    obtain ⟨m, n, -, hn, -⟩ := hexPair?_eq_some_iff.mp hbyte
    simp [h.head c hc] at hn

/-- They are pieces of their own at the end of every text. -/
lemma Lasting.pieces_append (cs : List Char) :
    pieces signedPair? (cs ++ ds) = pieces signedPair? cs ++ ds.map Piece.plain := by
  induction cs using pieces_induction signedPair? with
  | nil =>
    have hpercent : '%' ∉ ds := fun hd => (h.ne hd).1 rfl
    exact pieces_of_not_escaped (not_occurs_of_not_mem hpercent)
  | escape high low rest byte hbyte ih =>
    rw [List.cons_append, List.cons_append, List.cons_append, pieces_escape _ hbyte, ih,
      pieces_escape _ hbyte, List.cons_append]
  | plain c cs hliteral ih =>
    have hliteral' : Literal signedPair? c (cs ++ ds) := by
      intro hc high low rest heq
      match cs, hliteral with
      | [], _ =>
        obtain rfl : ds = high :: low :: rest := heq
        exact (h.signedPair?_eq_none rfl low).1
      | [d], _ =>
        obtain ⟨rfl, rfl⟩ : d = high ∧ ds = low :: rest := List.cons.inj heq
        exact (h.signedPair?_eq_none rfl d).2
      | d :: e :: cs, hliteral =>
        obtain ⟨rfl, hrest⟩ := List.cons.inj heq
        obtain ⟨rfl, -⟩ := List.cons.inj hrest
        exact hliteral hc d e cs rfl
    rw [List.cons_append, pieces_cons hliteral', ih, pieces_cons hliteral, List.cons_append]

lemma Lasting.suffix_percentDecode {segment : String} (hs : ds <:+ segment.toList) :
    ds <:+ (percentDecode segment).toList := by
  obtain ⟨cs, heq⟩ := hs
  have hbytes : (ds.map Piece.plain).flatMap Piece.bytes = Utf8.encode ds := List.flatMap_map ..
  rw [percentDecode_eq_textOf, textOf, String.toList_ofList, ← heq, h.pieces_append,
    List.flatMap_append, hbytes]
  exact Utf8.suffix_decodeLossy _ ds

lemma Lasting.suffix_unescape {segment : String} (hs : ds <:+ segment.toList) :
    ds <:+ (unescape segment).toList := by
  have hone : ∀ d ∈ ds, d ∉ "~1".toList := fun d hd => by
    obtain ⟨-, htilde, -, -, -, hone⟩ := h.ne hd
    simp [htilde, hone]
  have hzero : ∀ d ∈ ds, d ∉ "~0".toList := fun d hd => by
    obtain ⟨-, htilde, -, -, hzero, -⟩ := h.ne hd
    simp [htilde, hzero]
  exact Text.suffix_replace hzero (Text.suffix_replace hone (h.suffix_percentDecode hs))

lemma Lasting.suffix_escape {key : String} (hs : ds <:+ key.toList) :
    ds <:+ (escape key).toList := by
  have htilde : ∀ d ∈ ds, d ∉ "~".toList := fun d hd => by simp [(h.ne hd).2.1]
  have hslash : ∀ d ∈ ds, d ∉ "/".toList := fun d hd => by simp [(h.ne hd).2.2.1]
  exact Text.suffix_replace hslash (Text.suffix_replace htilde hs)

/-- The key at the end of a pointer ends in the letters that the pointer ends in. -/
lemma Lasting.suffix_lastName {pointer : String} (hs : ds <:+ pointer.toList) :
    ds <:+ (lastName pointer).toList := by
  obtain ⟨cs, heq⟩ := hs
  have hslash : ∀ d ∈ ds, (d == '/') = false := fun d hd => by simp [(h.ne hd).2.2.1]
  obtain ⟨front, piece, hsplit⟩ := Text.exists_splitBy_append_of_forall hslash cs
  have hlast : (Text.splitOn '/' pointer).getLast? = some (String.ofList (piece ++ ds)) := by
    rw [Text.splitOn, ← heq, hsplit, List.map_append, List.map_singleton, List.getLast?_concat]
  rw [lastName, hlast, Option.getD_some]
  exact h.suffix_unescape (by simp)

end Pointer

/-! ### Words -/

namespace Naming

/-- A text ends in one of some letters. -/
def EndsIn (letters cs : List Char) : Prop := ∃ c ∈ letters, [c] <:+ cs

lemma EndsIn.mono {letters cs ds : List Char} (h : EndsIn letters cs) (hends : cs <:+ ds) :
    EndsIn letters ds := by
  obtain ⟨c, hc, hsuffix⟩ := h
  exact ⟨c, hc, hsuffix.trans hends⟩

instance (letters cs : List Char) : Decidable (EndsIn letters cs) :=
  decidable_of_iff (letters.any fun c => decide ([c] <:+ cs)) <| by
    simp only [List.any_eq_true, decide_eq_true_eq, EndsIn]

/-- A text ends in one letter only. -/
lemma EndsIn.exists_mem {letters letters' cs : List Char} (h : EndsIn letters cs)
    (h' : EndsIn letters' cs) : ∃ c ∈ letters, c ∈ letters' := by
  obtain ⟨c, hc, hsuffix⟩ := h
  obtain ⟨d, hd, hsuffix'⟩ := h'
  have heq := (List.suffix_of_suffix_length_le hsuffix hsuffix' (Nat.le_refl 1)).eq_of_length rfl
  exact ⟨c, hc, List.singleton_inj.mp heq ▸ hd⟩

/-- Letters of which each is in small letters, and in capitals, one of them. -/
structure KeptLetters (letters : List Char) : Prop where
  letter : ∀ c ∈ letters, Text.isAlphanumeric c = true ∧ c.isDigit = false
  lower : ∀ c ∈ letters, c ≠ Text.capitalSigma ∧ ∃ d ∈ letters, Text.lowerChars c = [d]
  upper : ∀ c ∈ letters, ∃ d ∈ letters, Text.upperChars c = [d]

/-- A letter that is in small letters, and in capitals, one of some letters. -/
def isKept (letters : List Char) (c : Char) : Bool :=
  Text.isAlphanumeric c && !c.isDigit && c != Text.capitalSigma
    && letters.any (Text.lowerChars c == [·]) && letters.any (Text.upperChars c == [·])

instance (letters : List Char) : Decidable (KeptLetters letters) :=
  decidable_of_iff (letters.all (isKept letters)) <| by
    simp only [List.all_eq_true, isKept, Bool.and_eq_true, Bool.not_eq_true', bne_iff_ne,
      List.any_eq_true, beq_iff_eq]
    exact ⟨fun h => ⟨fun c hc => (h c hc).1.1.1, fun c hc => ⟨(h c hc).1.1.2, (h c hc).1.2⟩,
      fun c hc => (h c hc).2⟩,
      fun h c hc => ⟨⟨⟨h.letter c hc, (h.lower c hc).1⟩, (h.lower c hc).2⟩, h.upper c hc⟩⟩

variable {letters : List Char} {c : Char}

/-- The last word that is cut ends in what the piece ends in. -/
lemma exists_cut_append (run : Run) (read : List Char) {cs : List Char} (h : [c] <:+ cs) :
    ∃ front word, cut run read cs = front ++ [word] ∧ [c] <:+ word := by
  have hrest : ∀ {d next : Char} {rest : List Char}, [c] <:+ d :: next :: rest →
      [c] <:+ next :: rest := fun h => by
    rcases List.suffix_cons_iff.mp h with heq | h
    · simp at heq
    · exact h
  fun_induction cut run read cs with
  | case1 => simp at h
  | case2 run read d =>
    refine ⟨[], _, rfl, ?_⟩
    rw [List.reverse_cons]
    exact h.trans (List.suffix_append _ _)
  | case3 run read d next rest hend ih =>
    obtain ⟨front, word, heq, hword⟩ := ih (hrest h)
    exact ⟨_ :: front, word, by rw [heq, List.cons_append], hword⟩
  | case4 run read d next rest hend hbefore ih =>
    obtain ⟨front, word, heq, hword⟩ := ih (hrest h)
    exact ⟨_ :: front, word, by rw [heq, List.cons_append], hword⟩
  | case5 run read d next rest hend hbefore ih => exact ih (hrest h)

/-- The last word of a name ends in what the name ends in. -/
lemma exists_words_append {name : String} (hc : Text.isAlphanumeric c = true)
    (h : [c] <:+ name.toList) : ∃ front word, words name = front ++ [word] ∧ [c] <:+ word := by
  obtain ⟨cs, heq⟩ := h
  have hseparates : ∀ d ∈ [c], (!Text.isAlphanumeric d) = false := by simpa using hc
  obtain ⟨pieces, piece, hsplit⟩ := Text.exists_splitBy_append_of_forall hseparates cs
  obtain ⟨front, word, hcut, hword⟩ := exists_cut_append .fresh [] (List.suffix_append piece [c])
  refine ⟨pieces.flatMap (cut .fresh []) ++ front, word, ?_, hword⟩
  rw [words, ← heq, hsplit, List.flatMap_append, List.flatMap_singleton, hcut, List.append_assoc]

section

variable (hkept : KeptLetters letters) {word : List Char}
include hkept

lemma KeptLetters.endsIn_lowerWord (h : EndsIn letters word) : EndsIn letters (lowerWord word) := by
  obtain ⟨c, hc, hends⟩ := h
  obtain ⟨hsigma, d, hd, hlower⟩ := hkept.lower c hc
  refine ⟨d, hd, ?_⟩
  fun_induction lowerWord word with
  | case1 => simp at hends
  | case2 e he =>
    obtain rfl : c = e := List.singleton_inj.mp (hends.eq_of_length rfl)
    exact absurd (beq_iff_eq.mp he) hsigma
  | case3 e he =>
    obtain rfl : c = e := List.singleton_inj.mp (hends.eq_of_length rfl)
    rw [hlower]
  | case4 e rest hrest ih =>
    rcases List.suffix_cons_iff.mp hends with heq | hends
    · exact absurd (List.cons.inj heq).2.symm hrest
    · exact (ih hends).trans (List.suffix_append _ _)

lemma KeptLetters.endsIn_upperWord (h : EndsIn letters word) : EndsIn letters (upperWord word) := by
  obtain ⟨c, hc, cs, rfl⟩ := h
  obtain ⟨d, hd, hupper⟩ := hkept.upper c hc
  refine ⟨d, hd, ?_⟩
  rw [upperWord, List.flatMap_append, List.flatMap_singleton, hupper]
  exact List.suffix_append _ _

lemma KeptLetters.endsIn_capitalWord (h : EndsIn letters word) :
    EndsIn letters (capitalWord word) := by
  obtain ⟨c, hc, hends⟩ := h
  cases word with
  | nil => simp at hends
  | cons e rest =>
    rcases List.suffix_cons_iff.mp hends with heq | hends
    · obtain ⟨rfl, rfl⟩ := List.cons.inj heq
      obtain ⟨d, hd, hupper⟩ := hkept.upper c hc
      exact ⟨d, hd, by simp [capitalWord, lowerWord, hupper]⟩
    · exact (hkept.endsIn_lowerWord ⟨c, hc, hends⟩).mono (List.suffix_append _ _)

variable {name : String} (h : EndsIn letters name.toList)
include h

lemma KeptLetters.exists_words : ∃ front word, words name = front ++ [word]
    ∧ EndsIn letters word := by
  obtain ⟨c, hc, hends⟩ := h
  obtain ⟨front, word, heq, hword⟩ := exists_words_append (hkept.letter c hc).1 hends
  exact ⟨front, word, heq, c, hc, hword⟩

lemma KeptLetters.endsIn_pascal : EndsIn letters (pascal name).toList := by
  obtain ⟨front, word, heq, hword⟩ := hkept.exists_words h
  rw [pascal, String.toList_ofList, heq, List.flatMap_append, List.flatMap_singleton]
  exact (hkept.endsIn_capitalWord hword).mono (List.suffix_append _ _)

lemma KeptLetters.endsIn_camel : EndsIn letters (camel name).toList := by
  obtain ⟨front, word, heq, hword⟩ := hkept.exists_words h
  rw [camel, String.toList_ofList, heq]
  cases front with
  | nil =>
    rw [List.nil_append]
    exact (hkept.endsIn_lowerWord hword).mono (by simp)
  | cons first front =>
    rw [List.cons_append]
    dsimp only
    rw [List.flatMap_append, List.flatMap_singleton, ← List.append_assoc]
    exact (hkept.endsIn_capitalWord hword).mono (List.suffix_append _ _)

lemma KeptLetters.endsIn_snake : EndsIn letters (snake name).toList := by
  obtain ⟨front, word, heq, hword⟩ := hkept.exists_words h
  rw [snake, heq, List.map_append, List.map_singleton]
  refine EndsIn.mono ?_ (Text.suffix_joinWith _ _ _)
  rw [String.toList_ofList]
  exact hkept.endsIn_lowerWord hword

lemma KeptLetters.endsIn_screaming : EndsIn letters (screaming name).toList := by
  obtain ⟨front, word, heq, hword⟩ := hkept.exists_words h
  rw [screaming, heq, List.map_append, List.map_singleton]
  refine EndsIn.mono ?_ (Text.suffix_joinWith _ _ _)
  rw [String.toList_ofList]
  exact hkept.endsIn_upperWord hword

end

end Naming

/-! ### Conventions -/

namespace NamingConvention

open Naming (EndsIn KeptLetters)

lemma suffix_guardDigit (name : String) : name.toList <:+ (guardDigit name).toList := by
  rw [guardDigit]
  split
  · split
    · rw [String.toList_append]
      exact List.suffix_append _ _
    · exact List.suffix_refl _
  · exact List.suffix_refl _

variable {letters : List Char} (hkept : KeptLetters letters) {name : String}
  (h : EndsIn letters name.toList)
include hkept h

lemma endsIn_sanitize : EndsIn letters (sanitize name).toList := by
  obtain ⟨c, hc, cs, heq⟩ := h
  have hseparates : ∀ d ∈ [c], (!Text.isAlphanumeric d) = false := by
    simpa using (hkept.letter c hc).1
  obtain ⟨pieces, piece, hsplit⟩ := Text.exists_splitBy_append_of_forall hseparates cs
  set kept := pieces.filter fun run => !run.isEmpty with hdef
  have hruns : (Text.splitBy (fun c => !Text.isAlphanumeric c) name.toList).filter
      (fun run => !run.isEmpty) = kept ++ [piece ++ [c]] := by
    rw [← heq, hsplit, List.filter_append, hdef]
    simp
  refine ⟨c, hc, ?_⟩
  rw [sanitize, hruns]
  split
  · simp_all
  · refine List.IsSuffix.trans ?_ (suffix_guardDigit _)
    rw [List.map_append, List.map_singleton]
    refine List.IsSuffix.trans ?_ (Text.suffix_joinWith _ _ _)
    rw [String.toList_ofList]
    exact List.suffix_append _ _

/-- A name keeps the letter that it ends in under every convention, but for its case. -/
lemma endsIn_apply (convention : NamingConvention) :
    EndsIn letters (convention.apply name).toList := by
  have hsanitized := endsIn_sanitize hkept h
  refine EndsIn.mono ?_ (suffix_guardDigit _)
  cases convention with
  | camel => exact hkept.endsIn_camel hsanitized
  | pascal => exact hkept.endsIn_pascal hsanitized
  | snake => exact hkept.endsIn_snake hsanitized
  | screaming => exact hkept.endsIn_screaming hsanitized
  | preserve => exact hsanitized

end NamingConvention

/-! ### Given names -/

namespace Output.Registry

open Naming (EndsIn KeptLetters)

lemma endsIn_baseName {letters : List Char} (hkept : KeptLetters letters) {pointer : String}
    (convention : NamingConvention) (h : EndsIn letters (Pointer.lastName pointer).toList) :
    EndsIn letters (baseName pointer convention).toList := by
  have hname := NamingConvention.endsIn_apply hkept h convention
  rw [baseName]
  split
  · rw [String.toList_append]
    exact hname.mono (List.suffix_append _ _)
  · exact hname

/-- A name without the number at its end. -/
def stem (name : String) : List Char := name.toList.rdropWhile Char.isDigit

lemma stem_append_number (s : String) (n : ℕ) : stem (s ++ toString n) = stem s := by
  have hdigits : ∀ ds : List Char, (∀ d ∈ ds, d.isDigit = true) → ∀ cs : List Char,
      (cs ++ ds).rdropWhile Char.isDigit = cs.rdropWhile Char.isDigit := by
    intro ds
    induction ds using List.reverseRecOn with
    | nil => simp
    | append_singleton ds d ih =>
      intro hds cs
      rw [← List.append_assoc, List.rdropWhile_concat_pos _ _ _ (hds d (by simp)),
        ih (fun e he => hds e (List.mem_append_left _ he)) cs]
  rw [stem, stem, String.toList_append]
  refine hdigits _ (fun d hd => ?_) _
  rw [Nat.toString_eq_ofList_toDigits, String.toList_ofList] at hd
  exact Nat.isDigit_of_mem_toDigits (by omega) (by omega) hd

/-- The name that is given for a reference has the stem of the one that it asks for. -/
lemma stem_uniqueName (taken : List String) (base : String) :
    stem (uniqueName taken base) = stem base := by
  rcases uniqueName_eq_or taken base with heq | ⟨n, heq⟩
  · rw [heq]
  · rw [heq, stem_append_number]

/-- A name that ends in a letter is its own stem. -/
lemma stem_of_endsIn {letters : List Char} (hkept : KeptLetters letters) {name : String}
    (h : EndsIn letters name.toList) : stem name = name.toList := by
  obtain ⟨c, hc, cs, heq⟩ := h
  rw [stem, ← heq, List.rdropWhile_concat_neg _ _ _ (by simp [(hkept.letter c hc).2])]

end Output.Registry

end OpenApiTypes
