/-
Upper and lower case.

* `Text.uppercase_ne_empty`, `Text.lowercase_ne_empty`: a text does not become empty in either;
* `Text.titleLetter`: a letter of neither case, `Text.casedLetters`: what it is in each;
* `Text.uppercase_subset_casedLetters`, `Text.lowercase_subset_casedLetters`: a text of such letters
  has none but the latter in either case;
* `Text.lowercase_append_digits`: digits at the end of a text stay as they are in small letters, and
  nothing else depends on them;
* `Text.lowercase_append_number_injective`: so texts that differ in the number at their end stay
  different.
-/
import OpenApiTypes.Proofs.Entries
import OpenApiTypes.Text.Lettering
import Mathlib.Tactic.Common

namespace OpenApiTypes.Text

variable {s : String} {c : Char}

/-! ### Empty texts -/

lemma lowerChars_ne_nil (c : Char) : lowerChars c ≠ [] := by
  rw [lowerChars]
  split_ifs
  · exact List.cons_ne_nil _ _
  · split <;> exact List.cons_ne_nil _ _

lemma upperChars_ne_nil (c : Char) : upperChars c ≠ [] := by
  have hexpansions : ∀ e ∈ upperExpansions, e.2 ≠ [] := by decide
  rw [upperChars]
  split
  · exact List.cons_ne_nil _ _
  · split
    · rename_i ns hns
      have hmem : (c.toNat, ns) ∈ upperExpansions := Entries.mem_of_get? hns
      exact List.map_eq_nil_iff.not.mpr (hexpansions _ hmem)
    · exact List.cons_ne_nil _ _

lemma lowercase_ne_empty (h : s ≠ "") : lowercase s ≠ "" := by
  obtain ⟨c, cs, hs⟩ := List.exists_cons_of_ne_nil (String.toList_eq_nil_iff.not.mpr h)
  rw [lowercase, hs, lowercaseFrom]
  refine String.ofList_eq_empty_iff.not.mpr fun hnil => ?_
  have hfirst := (List.append_eq_nil_iff.mp hnil).1
  split_ifs at hfirst
  exact lowerChars_ne_nil c hfirst

lemma uppercase_ne_empty (h : s ≠ "") : uppercase s ≠ "" := by
  obtain ⟨c, cs, hs⟩ := List.exists_cons_of_ne_nil (String.toList_eq_nil_iff.not.mpr h)
  rw [uppercase, hs, List.flatMap_cons]
  refine String.ofList_eq_empty_iff.not.mpr fun hnil => ?_
  exact upperChars_ne_nil c (List.append_eq_nil_iff.mp hnil).1

/-! ### Neither case -/

/-- The letter `ǅ`, which begins words in titles. -/
def titleLetter : Char := 'ǅ'

/-- The same letter in upper and in lower case. -/
def casedLetters : List Char := ['Ǆ', 'ǆ']

lemma titleLetter_notMem : titleLetter ∉ casedLetters := by decide

lemma subset_casedLetters (h : c ∈ titleLetter :: casedLetters) :
    upperChars c ⊆ casedLetters ∧ lowerChars c ⊆ casedLetters ∧ (c == capitalSigma) = false := by
  simp only [casedLetters, List.mem_cons, List.not_mem_nil, or_false] at h
  rcases h with rfl | rfl | rfl <;> decide

lemma uppercase_subset_casedLetters (h : s.toList ⊆ titleLetter :: casedLetters) :
    (uppercase s).toList ⊆ casedLetters := by
  intro d hd
  rw [uppercase, String.toList_ofList] at hd
  obtain ⟨c, hc, hd⟩ := List.mem_flatMap.mp hd
  exact (subset_casedLetters (h hc)).1 hd

lemma lowercaseFrom_subset_casedLetters {before cs : List Char}
    (h : cs ⊆ titleLetter :: casedLetters) : lowercaseFrom before cs ⊆ casedLetters := by
  induction cs generalizing before with
  | nil => exact List.nil_subset _
  | cons c cs ih =>
    obtain ⟨hc, hcs⟩ := List.cons_subset.mp h
    obtain ⟨-, hlower, hsigma⟩ := subset_casedLetters hc
    rw [lowercaseFrom, hsigma]
    exact List.append_subset.mpr ⟨hlower, ih hcs⟩

lemma lowercase_subset_casedLetters (h : s.toList ⊆ titleLetter :: casedLetters) :
    (lowercase s).toList ⊆ casedLetters := by
  rw [lowercase, String.toList_ofList]
  exact lowercaseFrom_subset_casedLetters h

/-! ### Digits -/

/-- A digit has no case, is not passed over, and is its own small letter. -/
structure Caseless (c : Char) : Prop where
  isCased : isCased c = false
  isCaseIgnorable : isCaseIgnorable c = false
  lowerChars : lowerChars c = [c]
  ne_sigma : (c == capitalSigma) = false

lemma caseless_of_isDigit {c : Char} (h : c.isDigit) : Caseless c := by
  have hcode : ∀ n < 58, 48 ≤ n → CodeRun.covers casedRuns n = false
      ∧ CodeRun.covers caseIgnorableRuns n = false
      ∧ CodeShift.find? lowerShifts n = none := by decide
  have hbounds : 48 ≤ c.toNat ∧ c.toNat < 58 := by
    simp only [Char.isDigit, Bool.and_eq_true, decide_eq_true_eq, ge_iff_le,
      UInt32.le_iff_toNat_le] at h
    exact ⟨h.1, Nat.lt_succ_of_le h.2⟩
  obtain ⟨hcased, hignorable, hshift⟩ := hcode c.toNat hbounds.2 hbounds.1
  refine ⟨hcased, hignorable, ?_, ?_⟩
  · have hne : c.toNat ≠ 0x130 := by omega
    simp [lowerChars, hne, hshift]
  · refine beq_eq_false_iff_ne.mpr fun heq => ?_
    have : c.toNat = 0x3A3 := by rw [heq]; rfl
    omega

/-! ### Digits at the end -/

variable {digits : List Char}

lemma leadsToCased_append_digits (h : ∀ c ∈ digits, c.isDigit) (cs : List Char) :
    leadsToCased (cs ++ digits) = leadsToCased cs := by
  induction cs with
  | nil =>
    cases digits with
    | nil => rfl
    | cons c rest =>
      have hc := caseless_of_isDigit (h c List.mem_cons_self)
      simp [leadsToCased, hc.isCaseIgnorable, hc.isCased]
  | cons c cs ih =>
    cases hc : isCaseIgnorable c with
    | true => simpa [leadsToCased, hc] using ih
    | false => simp [leadsToCased, hc]

lemma lowercaseFrom_digits (h : ∀ c ∈ digits, c.isDigit) (before : List Char) :
    lowercaseFrom before digits = digits := by
  induction digits generalizing before with
  | nil => rfl
  | cons c rest ih =>
    have hc := caseless_of_isDigit (h c List.mem_cons_self)
    have hrest := ih (fun d hd => h d (List.mem_cons_of_mem _ hd)) (c :: before)
    simp [lowercaseFrom, hc.ne_sigma, hc.lowerChars, hrest]

lemma lowercaseFrom_append_digits (h : ∀ c ∈ digits, c.isDigit) (before cs : List Char) :
    lowercaseFrom before (cs ++ digits) = lowercaseFrom before cs ++ digits := by
  induction cs generalizing before with
  | nil => exact lowercaseFrom_digits h before
  | cons c cs ih =>
    have hend : endsWord before (cs ++ digits) = endsWord before cs := by
      rw [endsWord, leadsToCased_append_digits h, endsWord]
    simp [lowercaseFrom, hend, ih]

/-- Digits at the end of a text stay as they are. -/
lemma lowercase_append_digits (s : String) (h : ∀ c ∈ digits, c.isDigit) :
    lowercase (s ++ String.ofList digits) = lowercase s ++ String.ofList digits := by
  simp [lowercase, lowercaseFrom_append_digits h]

lemma lowercase_append_number (s : String) (n : Nat) :
    lowercase (s ++ toString n) = lowercase s ++ toString n := by
  rw [Nat.toString_eq_ofList_toDigits]
  exact lowercase_append_digits s fun c hc => Nat.isDigit_of_mem_toDigits (by omega) (by omega) hc

/-! ### Numbers at the end -/

lemma toString_nat_injective : Function.Injective (toString : Nat → String) := by
  intro m n h
  simp only [Nat.toString_eq_ofList_toDigits, String.ofList_inj] at h
  rw [← Nat.ofDigitChars_ten_toDigits (n := m), h, Nat.ofDigitChars_ten_toDigits]

lemma append_right_injective (s : String) : Function.Injective fun t : String => s ++ t := by
  intro t u h
  simpa using h

lemma append_number_injective (s : String) : Function.Injective fun n : Nat => s ++ toString n :=
  (append_right_injective s).comp toString_nat_injective

/-- Texts that differ in the number at their end differ in small letters, too. -/
lemma lowercase_append_number_injective (s : String) :
    Function.Injective fun n : Nat => lowercase (s ++ toString n) := by
  simp only [lowercase_append_number]
  exact append_number_injective (lowercase s)

end OpenApiTypes.Text
