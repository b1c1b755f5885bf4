/-
New names that can stand without quotes.

* `Text.isAlphanum_of_ascii`, `Text.isAlphanum_of_mem_lowerChars`: letters and digits of ASCII, and
  what they are in either case;
* `Naming.flatten_words`: the words of a name hold its letters and digits, and nothing else;
* `NamingConvention.IsWord`: a name of such letters, digits and underscores, in which no digit comes
  first; `NamingConvention.isWord_apply`: under every convention, a name in ASCII becomes one;
* `Output.Registry.isIdentifier_of_request`: so does the name that is created for a reference.
-/
import OpenApiTypes.Proofs.Output.Log
import OpenApiTypes.Proofs.Text.Lettering
import OpenApiTypes.Proofs.Text.Pieces
import OpenApiTypes.TypeScript.Text

namespace OpenApiTypes

/-! ### Letters and digits of ASCII -/

namespace Text

variable {c d : Char} {cs piece : List Char} {separates : Char → Bool}

/-- A character of ASCII is a letter or a digit in the sense of names exactly if it is one of those
from `A` to `z` and from `0` to `9`. -/
lemma isAlphanum_of_ascii (hc : c.toNat < 0x80) (h : isAlphanumeric c = true) :
    c.isAlphanum = true := by
  have hcode : ∀ n < 0x80, CodeRun.covers alphanumericRuns n = true →
      (Char.ofNat n).isAlphanum = true := by decide +kernel
  rw [← Char.ofNat_toNat c]
  exact hcode c.toNat hc h

lemma lt_of_isAlphanum (h : c.isAlphanum = true) : c.toNat < 0x7B := by
  change ((decide (c.val ≥ 'A'.val ∧ c.val ≤ 'Z'.val)
    || decide (c.val ≥ 'a'.val) && decide (c.val ≤ 'z'.val))
    || decide (c.val ≥ '0'.val) && decide (c.val ≤ '9'.val)) = true at h
  simp only [Bool.or_eq_true, Bool.and_eq_true, decide_eq_true_eq, ge_iff_le,
    UInt32.le_iff_toNat_le] at h
  have : c.toNat = c.val.toNat := rfl
  have : 'Z'.val.toNat = 0x5A := rfl
  have : 'z'.val.toNat = 0x7A := rfl
  have : '9'.val.toNat = 0x39 := rfl
  omega

/-- What holds of all letters and digits of ASCII may be looked up in a table. -/
lemma forall_isAlphanum {p : Char → Prop}
    (h : ∀ n < 0x7B, (Char.ofNat n).isAlphanum = true → p (Char.ofNat n))
    (hc : c.isAlphanum = true) : p c := by
  rw [← Char.ofNat_toNat c] at hc ⊢
  exact h c.toNat (lt_of_isAlphanum (Char.ofNat_toNat c ▸ hc)) hc

lemma isAlphanumeric_of_isAlphanum (h : c.isAlphanum = true) : isAlphanumeric c = true :=
  forall_isAlphanum (p := fun c => isAlphanumeric c = true) (by decide +kernel) h

lemma isAlphanum_of_mem_lowerChars (h : c.isAlphanum = true) :
    ∀ d ∈ lowerChars c, d.isAlphanum = true :=
  List.all_eq_true.mp <| forall_isAlphanum (p := fun c => (lowerChars c).all Char.isAlphanum = true)
    (by decide +kernel) h

lemma isAlphanum_of_mem_upperChars (h : c.isAlphanum = true) :
    ∀ d ∈ upperChars c, d.isAlphanum = true :=
  List.all_eq_true.mp <| forall_isAlphanum (p := fun c => (upperChars c).all Char.isAlphanum = true)
    (by decide +kernel) h

/-! ### Pieces -/

/-- The pieces of a text hold what is no separator. -/
lemma flatten_splitBy (separates : Char → Bool) (cs : List Char) :
    (splitBy separates cs).flatten = cs.filter fun c => !separates c := by
  induction cs with
  | nil => rfl
  | cons c cs ih =>
    rw [splitBy]
    split_ifs with hc
    · rw [List.flatten_cons, List.nil_append, ih, List.filter_cons_of_neg (by simpa using hc)]
    · rw [List.filter_cons_of_pos (by simpa using hc), ← ih]
      split
      · rename_i heq
        rw [heq, List.flatten_cons, List.flatten_cons, List.cons_append]
      · rename_i heq
        rw [heq]
        rfl

end Text

/-! ### Words -/

namespace Naming

open OpenApiTypes.Text

variable {word : List Char} {name : String}

/-- A piece is cut into words without losing anything. -/
lemma flatten_cut (run : Run) (read : List Char) {cs : List Char} (h : cs ≠ []) :
    (cut run read cs).flatten = read.reverse ++ cs := by
  fun_induction cut run read cs with
  | case1 => exact absurd rfl h
  | case2 run read c => simp
  | case3 run read c next rest hend ih => simp [ih]
  | case4 run read c next rest hend hbefore ih => simp [ih]
  | case5 run read c next rest hend hbefore ih => simp [ih]

/-- The words of a name hold its letters and digits, and nothing else. -/
lemma flatten_words (name : String) :
    (words name).flatten = name.toList.filter isAlphanumeric := by
  have hcut : ∀ piece, (cut .fresh [] piece).flatten = piece := fun piece => by
    cases piece with
    | nil => rfl
    | cons c cs => simpa using flatten_cut .fresh [] (List.cons_ne_nil c cs)
  have hpieces := flatten_splitBy (fun c => !isAlphanumeric c) name.toList
  simp only [Bool.not_not] at hpieces
  rw [words, ← hpieces, List.flatMap_def, List.flatten_flatten, List.map_map]
  simp [Function.comp_def, hcut]

/-- A text of letters and digits of ASCII. -/
abbrev Plain (cs : List Char) : Prop := ∀ c ∈ cs, c.isAlphanum = true

lemma plain_lowerWord (h : Plain word) : Plain (lowerWord word) := by
  induction word with
  | nil => exact h
  | cons c rest ih =>
    obtain ⟨hc, hrest⟩ := List.forall_mem_cons.mp h
    cases rest with
    | nil =>
      have hsigma : c ≠ capitalSigma := by
        rintro rfl
        exact absurd hc (by decide)
      rw [lowerWord, if_neg (by simpa using hsigma)]
      exact isAlphanum_of_mem_lowerChars hc
    | cons d rest =>
      exact List.forall_mem_append.mpr ⟨isAlphanum_of_mem_lowerChars hc, ih hrest⟩

lemma plain_upperWord (h : Plain word) : Plain (upperWord word) := by
  intro d hd
  obtain ⟨c, hc, hd⟩ := List.mem_flatMap.mp hd
  exact isAlphanum_of_mem_upperChars (h c hc) d hd

lemma plain_capitalWord (h : Plain word) : Plain (capitalWord word) := by
  cases word with
  | nil => exact h
  | cons c rest =>
    obtain ⟨hc, hrest⟩ := List.forall_mem_cons.mp h
    exact List.forall_mem_append.mpr ⟨isAlphanum_of_mem_upperChars hc, plain_lowerWord hrest⟩

lemma lowerWord_ne_nil (h : word ≠ []) : lowerWord word ≠ [] := by
  obtain ⟨c, rest, rfl⟩ := List.exists_cons_of_ne_nil h
  cases rest with
  | nil =>
    rw [lowerWord]
    split_ifs
    · exact List.cons_ne_nil _ _
    · exact lowerChars_ne_nil c
  | cons d rest => exact List.append_ne_nil_of_left_ne_nil (lowerChars_ne_nil c) _

lemma upperWord_ne_nil (h : word ≠ []) : upperWord word ≠ [] := by
  obtain ⟨c, rest, rfl⟩ := List.exists_cons_of_ne_nil h
  exact List.append_ne_nil_of_left_ne_nil (upperChars_ne_nil c) _

lemma capitalWord_ne_nil (h : word ≠ []) : capitalWord word ≠ [] := by
  obtain ⟨c, rest, rfl⟩ := List.exists_cons_of_ne_nil h
  exact List.append_ne_nil_of_left_ne_nil (upperChars_ne_nil c) _

end Naming

/-! ### Conventions -/

namespace NamingConvention

open OpenApiTypes.Naming (Plain flatten_words words)
open OpenApiTypes.Text

variable {name : String} {word : List Char}

/-- A name of letters and digits of ASCII and underscores, and not of underscores alone. -/
structure Worded (name : String) : Prop where
  letter : ∃ c ∈ name.toList, c.isAlphanum = true
  parts : ∀ c ∈ name.toList, c.isAlphanum = true ∨ c = '_'

/-- Such a name in which no digit comes first. -/
structure IsWord (name : String) : Prop extends Worded name where
  head : ∀ c ∈ name.toList.head?, c.isDigit = false

lemma worded_ofList {cs : List Char} (hne : cs ≠ []) (h : Plain cs) :
    Worded (String.ofList cs) where
  letter := by
    obtain ⟨c, hc⟩ := List.exists_mem_of_ne_nil cs hne
    exact ⟨c, by simpa using hc, h c hc⟩
  parts c hc := .inl (h c (by simpa using hc))

/-- Words joined by underscores, of which one at least is not empty. -/
lemma worded_joinWith {pieces : List (List Char)} (hne : ∃ piece ∈ pieces, piece ≠ [])
    (h : ∀ piece ∈ pieces, Plain piece) :
    Worded (joinWith "_" (pieces.map String.ofList)) where
  letter := by
    obtain ⟨piece, hpiece, hne⟩ := hne
    obtain ⟨c, hc⟩ := List.exists_mem_of_ne_nil piece hne
    exact ⟨c, mem_joinWith (List.mem_map_of_mem hpiece) (by simpa using hc), h piece hpiece c hc⟩
  parts c hc := by
    rcases mem_or_of_mem_joinWith hc with hc | ⟨piece, hpiece, hc⟩
    · exact .inr (by simpa using hc)
    · obtain ⟨word, hword, rfl⟩ := List.mem_map.mp hpiece
      exact .inl (h word hword c (by simpa using hc))

/-- With an underscore before it, no digit comes first. -/
lemma Worded.underscored (h : Worded name) : IsWord ("_" ++ name) where
  letter := by
    obtain ⟨c, hc, hletter⟩ := h.letter
    exact ⟨c, by simp [hc], hletter⟩
  parts c hc := by
    rw [String.toList_append] at hc
    rcases List.mem_append.mp hc with hc | hc
    · exact .inr (by simpa using hc)
    · exact h.parts c hc
  head := by simp

lemma Worded.guardDigit (h : Worded name) : IsWord (guardDigit name) := by
  rw [NamingConvention.guardDigit]
  split
  · split
    · exact h.underscored
    · rename_i hname hdigit
      exact ⟨h, by simpa [hname] using hdigit⟩
  · rename_i hname
    obtain ⟨c, hc, -⟩ := h.letter
    simp [hname] at hc

section

variable (hascii : ∀ c ∈ name.toList, c.toNat < 0x80)
include hascii

lemma plain_of_mem_words (h : word ∈ words name) : Plain word := by
  intro c hc
  have hmem : c ∈ name.toList.filter isAlphanumeric := by
    rw [← flatten_words]
    exact List.mem_flatten_of_mem h hc
  obtain ⟨hname, halphanumeric⟩ := List.mem_filter.mp hmem
  exact isAlphanum_of_ascii (hascii c hname) halphanumeric

lemma worded_sanitize : Worded (sanitize name) := by
  have hmem : ∀ run ∈ (splitBy (fun c => !isAlphanumeric c) name.toList).filter (!·.isEmpty),
      run ≠ [] ∧ Plain run := by
    intro run hrun
    obtain ⟨hrun, hne⟩ := List.mem_filter.mp hrun
    refine ⟨by simpa using hne, fun c hc => ?_⟩
    have hc : c ∈ name.toList.filter fun c => !!isAlphanumeric c := by
      rw [← flatten_splitBy]
      exact List.mem_flatten_of_mem hrun hc
    simp only [Bool.not_not, List.mem_filter] at hc
    exact isAlphanum_of_ascii (hascii c hc.1) hc.2
  rw [sanitize]
  split
  · have hletters : ∀ c ∈ "unnamed".toList, c.isAlphanum = true :=
      List.all_eq_true.mp (by decide +kernel)
    exact ⟨⟨'u', by simp, by decide⟩, fun c hc => .inl (hletters c hc)⟩
  · rename_i hne
    refine (worded_joinWith ?_ fun run hrun => (hmem run hrun).2).guardDigit.toWorded
    obtain ⟨run, hrun⟩ := List.exists_mem_of_ne_nil _ hne
    exact ⟨run, hrun, (hmem run hrun).1⟩

end

/-! ### Forms of words -/

section

variable (h : Worded name)
include h

lemma Worded.ascii : ∀ c ∈ name.toList, c.toNat < 0x80 := by
  intro c hc
  rcases h.parts c hc with hletter | rfl
  · exact Nat.lt_trans (lt_of_isAlphanum hletter) (by decide)
  · decide

lemma Worded.plain_of_mem_words (hword : word ∈ words name) : Plain word :=
  NamingConvention.plain_of_mem_words h.ascii hword

lemma Worded.exists_word : ∃ word ∈ words name, word ≠ [] := by
  obtain ⟨c, hc, hletter⟩ := h.letter
  have hmem : c ∈ (words name).flatten := by
    rw [flatten_words]
    exact List.mem_filter.mpr ⟨hc, isAlphanumeric_of_isAlphanum hletter⟩
  obtain ⟨word, hword, hc⟩ := List.mem_flatten.mp hmem
  exact ⟨word, hword, List.ne_nil_of_mem hc⟩

lemma Worded.pascal : Worded (Naming.pascal name) := by
  obtain ⟨word, hword, hne⟩ := h.exists_word
  refine worded_ofList (fun hnil => ?_) fun c hc => ?_
  · exact Naming.capitalWord_ne_nil hne (List.flatMap_eq_nil_iff.mp hnil word hword)
  · obtain ⟨word, hword, hc⟩ := List.mem_flatMap.mp hc
    exact Naming.plain_capitalWord (h.plain_of_mem_words hword) c hc

lemma Worded.camel : Worded (Naming.camel name) := by
  have hplain : ∀ word ∈ words name, Plain word := fun word => h.plain_of_mem_words
  obtain ⟨word, hword, hne⟩ := h.exists_word
  cases hwords : words name with
  | nil => simp [hwords] at hword
  | cons first rest =>
    rw [hwords] at hword hplain
    rw [Naming.camel, hwords]
    refine worded_ofList (fun hnil => ?_) fun c hc => ?_
    · obtain ⟨hfirst, hrest⟩ := List.append_eq_nil_iff.mp hnil
      rcases List.mem_cons.mp hword with rfl | hword
      · exact Naming.lowerWord_ne_nil hne hfirst
      · exact Naming.capitalWord_ne_nil hne (List.flatMap_eq_nil_iff.mp hrest word hword)
    · rcases List.mem_append.mp hc with hc | hc
      · exact Naming.plain_lowerWord (hplain first List.mem_cons_self) c hc
      · obtain ⟨word, hword, hc⟩ := List.mem_flatMap.mp hc
        exact Naming.plain_capitalWord (hplain word (List.mem_cons_of_mem _ hword)) c hc

/-- Words in some form, joined by underscores. -/
lemma Worded.joined {form : List Char → List Char} (hform : ∀ word, word ≠ [] → form word ≠ [])
    (hplain : ∀ word, Plain word → Plain (form word)) :
    Worded (joinWith "_" ((words name).map fun word => String.ofList (form word))) := by
  obtain ⟨word, hword, hne⟩ := h.exists_word
  have hpieces : ((words name).map fun word => String.ofList (form word))
      = ((words name).map form).map String.ofList := by simp
  rw [hpieces]
  refine worded_joinWith ⟨form word, List.mem_map_of_mem hword, hform word hne⟩ ?_
  intro piece hpiece
  obtain ⟨word, hword, rfl⟩ := List.mem_map.mp hpiece
  exact hplain word (h.plain_of_mem_words hword)

end

/-- Under every convention, a name in ASCII becomes one of letters, digits and underscores, in which
no digit comes first. -/
lemma isWord_apply (convention : NamingConvention) (hascii : ∀ c ∈ name.toList, c.toNat < 0x80) :
    IsWord (convention.apply name) := by
  have h := worded_sanitize hascii
  refine Worded.guardDigit ?_
  cases convention with
  | camel => exact h.camel
  | pascal => exact h.pascal
  | snake => exact h.joined (fun _ => Naming.lowerWord_ne_nil) fun _ => Naming.plain_lowerWord
  | screaming => exact h.joined (fun _ => Naming.upperWord_ne_nil) fun _ => Naming.plain_upperWord
  | preserve => exact h

/-- Such a name can stand without quotes. -/
lemma IsWord.isIdentifier (h : IsWord name) : TypeScript.isIdentifier name = true := by
  obtain ⟨c, hc, -⟩ := h.letter
  obtain ⟨first, rest, hname⟩ := List.exists_cons_of_ne_nil (List.ne_nil_of_mem hc)
  have hfirst : first.isDigit = false := h.head first (by simp [hname])
  have hparts : ∀ d ∈ first :: rest, TypeScript.continuesIdentifier d = true := by
    intro d hd
    rcases h.parts d (hname ▸ hd) with hletter | rfl
    · simp [TypeScript.continuesIdentifier, hletter]
    · decide
  obtain ⟨hbegins, hrest⟩ := List.forall_mem_cons.mp hparts
  rw [TypeScript.isIdentifier, hname]
  simp only [Bool.and_eq_true, List.all_eq_true]
  refine ⟨?_, hrest⟩
  simpa [TypeScript.beginsIdentifier, TypeScript.continuesIdentifier, Char.isAlphanum, hfirst]
    using hbegins

end NamingConvention

/-! ### Given names -/

namespace Output.Registry

open NamingConvention (IsWord)

variable {r : Registry} {pointer file name : String} {ns : Namespace} {creates : Bool}

lemma isWord_baseName (convention : NamingConvention)
    (hascii : ∀ c ∈ (Pointer.lastName pointer).toList, c.toNat < 0x80) :
    IsWord (baseName pointer convention) := by
  have h := NamingConvention.isWord_apply convention hascii
  rw [baseName]
  split
  · exact h.underscored
  · exact h

/-- A number at the end of a name changes nothing. -/
lemma isWord_uniqueName {base : String} (h : IsWord base) (taken : List String) :
    IsWord (uniqueName taken base) := by
  rcases uniqueName_eq_or taken base with heq | ⟨n, heq⟩
  · rwa [heq]
  · obtain ⟨c, hc, hletter⟩ := h.letter
    rw [heq]
    refine ⟨⟨⟨c, by simp [hc], hletter⟩, fun d hd => ?_⟩, fun d hd => ?_⟩
    · rw [String.toList_append] at hd
      rcases List.mem_append.mp hd with hd | hd
      · exact h.parts d hd
      · rw [Nat.toString_eq_ofList_toDigits, String.toList_ofList] at hd
        have hdigit := Nat.isDigit_of_mem_toDigits (by omega) (by omega) hd
        exact .inl (by simp [Char.isAlphanum, hdigit])
    · rw [String.toList_append, List.head?_append_of_ne_nil _ (List.ne_nil_of_mem hc)] at hd
      exact h.head d hd

/-- **A name that is created is a legal identifier.** If the last part of a reference is a text in
ASCII, whichever it is, the name that is created for it can stand without quotes under every
convention, whatever names there are already; it is not empty, and no word that the language
keeps. -/
theorem isIdentifier_of_request (hascii : ∀ c ∈ (Pointer.lastName pointer).toList, c.toNat < 0x80)
    (h : (r.request pointer ns file creates).1 = .active name true) :
    name ≠ "" ∧ TypeScript.isIdentifier name = true ∧ name ∉ reserved := by
  have hname : name = uniqueName (r.scopeOf ns file).taken
      (baseName pointer (r.conventionOf file)) := (newName_of_request h).symm
  have hword : IsWord name := hname ▸ isWord_uniqueName (isWord_baseName _ hascii) _
  refine ⟨?_, hword.isIdentifier, hname ▸ uniqueName_not_reserved _ _ _⟩
  obtain ⟨c, hc, -⟩ := hword.letter
  exact fun hempty => by simp [hempty] at hc

/-- A file in small letters with underscores, in which a component has the name of a word that the
language keeps. -/
def snakeFile : Registry :=
  ((registerFile [] "types" .snake).request "#/components/schemas/Class" .type "types" true).2

/-- The name `_class!` loses its underscore, gets one again because the language keeps `class`, and
a number because `_class` is taken. -/
theorem isIdentifier_of_request_class :
    (snakeFile.request "#/components/schemas/_class%21" .type "types" true).1
        = .active "_class2" true
      ∧ "_class2" ≠ "" ∧ TypeScript.isIdentifier "_class2" = true ∧ "_class2" ∉ reserved := by
  have h : (snakeFile.request "#/components/schemas/_class%21" .type "types" true).1
      = .active "_class2" true := by
    decide +kernel
  have hascii : ((Pointer.lastName "#/components/schemas/_class%21").toList.all
      fun c => decide (c.toNat < 0x80)) = true := by
    decide +kernel
  exact ⟨h, isIdentifier_of_request (by simpa using hascii) h⟩

end Output.Registry

end OpenApiTypes
