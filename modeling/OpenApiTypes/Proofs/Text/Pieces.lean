/-
Characters of a text in what is made of it.

* `Text.exists_splitBy_append`, `Text.exists_splitBy_append_of_forall`: the last piece of a text is
  what comes after the last separator, and ends in whatever holds no separator there;
* `Text.splitOn_append_singleton`, `Text.splitOn_joinWith`: texts with a separator between them are
  cut apart there;
* `Text.mem_or_of_mem_joinWith`, `Text.mem_joinWith`, `Text.suffix_joinWith`: the characters of a
  text put together, and its end;
* `Text.suffix_replace`, `Text.countP_replace`: replacing a text leaves an end without its
  characters, and takes no characters away of a kind that the new text has as well;
* `Text.replace_singleton`: replacing a character takes a text apart character by character;
* `Text.occursIn_iff`: a text occurs in another if it stands between two others there.
-/
import OpenApiTypes.Text.Split
import Mathlib.Data.List.Basic
import Mathlib.Tactic.Common

namespace OpenApiTypes.Text

variable {c : Char} {cs ds : List Char} {separates : Char → Bool}

/-! ### Pieces -/

/-- Cutting a text apart is cutting its characters apart as a list. -/
lemma splitBy_eq_splitOnP (separates : Char → Bool) (cs : List Char) :
    splitBy separates cs = cs.splitOnP separates := by
  induction cs with
  | nil => rfl
  | cons c cs ih =>
    rw [splitBy, List.splitOnP_cons_eq_if_modifyHead, ih]
    split_ifs with hc
    · rfl
    · obtain ⟨piece, pieces, heq⟩ := List.exists_cons_of_ne_nil (List.splitOnP_ne_nil separates cs)
      rw [heq]
      rfl

/-- A text without separators is its only piece. -/
lemma splitBy_of_forall (h : ∀ d ∈ ds, separates d = false) : splitBy separates ds = [ds] := by
  rw [splitBy_eq_splitOnP, List.splitOnP_eq_singleton h]

/-- The last piece is what comes after the last separator. -/
lemma exists_splitBy_append (hc : separates c = true) (h : ∀ d ∈ ds, separates d = false) :
    ∃ first rest, splitBy separates (cs ++ c :: ds) = first :: rest ++ [ds] := by
  obtain ⟨first, rest, heq⟩ := List.exists_cons_of_ne_nil (List.splitOnP_ne_nil separates cs)
  refine ⟨first, rest, ?_⟩
  rw [splitBy_eq_splitOnP, List.splitOnP_append_cons _ _ hc, List.splitOnP_eq_singleton h, heq]

/-- What holds no separator is at the end of the last piece. -/
lemma exists_splitBy_append_of_forall (h : ∀ d ∈ ds, separates d = false) (cs : List Char) :
    ∃ pieces piece, splitBy separates (cs ++ ds) = pieces ++ [piece ++ ds] := by
  induction cs with
  | nil => exact ⟨[], [], splitBy_of_forall h⟩
  | cons c cs ih =>
    obtain ⟨pieces, piece, heq⟩ := ih
    rw [List.cons_append, splitBy, heq]
    split
    · exact ⟨[] :: pieces, piece, rfl⟩
    · cases pieces with
      | nil => exact ⟨[], c :: piece, rfl⟩
      | cons first pieces => exact ⟨(c :: first) :: pieces, piece, rfl⟩

/-- A separator between two texts cuts them apart. -/
lemma splitOn_append_singleton (separator : Char) (s t : String) :
    splitOn separator (s ++ String.singleton separator ++ t)
      = splitOn separator s ++ splitOn separator t := by
  simp [splitOn, splitBy_eq_splitOnP, List.splitOnP_append_cons]

/-- What was put together with a separator is cut apart there. -/
lemma splitOn_joinWith {separator : Char} {pieces : List String} (hne : pieces ≠ [])
    (h : ∀ piece ∈ pieces, separator ∉ piece.toList) :
    splitOn separator (joinWith (String.singleton separator) pieces) = pieces := by
  have hpieces : ∀ cs ∈ pieces.map String.toList, separator ∉ cs := by simpa using h
  rw [splitOn, joinWith, String.toList_intercalate, String.toList_singleton, splitBy_eq_splitOnP,
    ← List.splitOn, List.splitOn_intercalate separator hpieces (by simpa using hne)]
  simp

/-- A text put together has no other characters than its pieces and the separator have. -/
lemma mem_or_of_mem_joinWith {separator : String} {pieces : List String}
    (h : c ∈ (joinWith separator pieces).toList) :
    c ∈ separator.toList ∨ ∃ piece ∈ pieces, c ∈ piece.toList := by
  unfold joinWith at h
  induction pieces with
  | nil => simp at h
  | cons first rest ih =>
    cases rest with
    | nil =>
      rw [String.intercalate_singleton] at h
      exact .inr ⟨first, List.mem_cons_self, h⟩
    | cons second rest =>
      rw [String.intercalate_cons_cons, String.toList_append, String.toList_append,
        List.mem_append, List.mem_append] at h
      rcases h with (h | h) | h
      · exact .inr ⟨first, List.mem_cons_self, h⟩
      · exact .inl h
      · exact (ih h).imp_right fun ⟨piece, hpiece, hc⟩ =>
          ⟨piece, List.mem_cons_of_mem _ hpiece, hc⟩

/-- It has all characters of its pieces. -/
lemma mem_joinWith {separator piece : String} {pieces : List String} (hpiece : piece ∈ pieces)
    (hc : c ∈ piece.toList) : c ∈ (joinWith separator pieces).toList := by
  unfold joinWith
  induction pieces with
  | nil => simp at hpiece
  | cons first rest ih =>
    cases rest with
    | nil =>
      obtain rfl := List.mem_singleton.mp hpiece
      rwa [String.intercalate_singleton]
    | cons second rest =>
      rw [String.intercalate_cons_cons, String.toList_append, String.toList_append]
      rcases List.mem_cons.mp hpiece with rfl | hpiece
      · exact List.mem_append_left _ (List.mem_append_left _ hc)
      · exact List.mem_append_right _ (ih hpiece)

/-- A text put together ends in what its last piece ends in. -/
lemma suffix_joinWith (separator last : String) (pieces : List String) :
    last.toList <:+ (joinWith separator (pieces ++ [last])).toList := by
  rw [joinWith]
  induction pieces with
  | nil => simp
  | cons first pieces ih =>
    obtain ⟨second, rest, heq⟩ := List.exists_cons_of_ne_nil
      (List.append_ne_nil_of_right_ne_nil pieces (List.cons_ne_nil last []))
    rw [List.cons_append, heq, String.intercalate_cons_cons, ← heq, String.toList_append]
    exact ih.trans (List.suffix_append _ _)

/-! ### Replacement -/

lemma stripPrefix?_isSome_iff {old : List Char} :
    (stripPrefix? old cs).isSome = true ↔ old <+: cs := by
  induction old generalizing cs with
  | nil => simp [stripPrefix?]
  | cons d old ih =>
    cases cs with
    | nil => simp [stripPrefix?]
    | cons e cs =>
      by_cases h : d = e
      · simp [stripPrefix?, h, ih, List.cons_prefix_cons]
      · simp [stripPrefix?, h, List.cons_prefix_cons]

lemma stripPrefix?_append (old cs : List Char) : stripPrefix? old (old ++ cs) = some cs := by
  induction old with
  | nil => simp [stripPrefix?]
  | cons c old ih => simp [stripPrefix?, ih]

/-- A text without a character of the one that is replaced stays as it is. -/
lemma replaceFrom_of_forall {old new : List Char} (h : ∀ d ∈ ds, d ∉ old) :
    replaceFrom old new 0 ds = ds := by
  induction ds with
  | nil => rfl
  | cons d ds ih =>
    obtain ⟨hd, hds⟩ := List.forall_mem_cons.mp h
    rw [replaceFrom, ih hds]
    split_ifs with hempty hmatch
    · rfl
    · cases old with
      | nil => simp at hempty
      | cons e old =>
        obtain ⟨rfl, -⟩ := List.cons_prefix_cons.mp (stripPrefix?_isSome_iff.mp hmatch)
        exact absurd List.mem_cons_self hd
    · rfl

/-- It stays so at the end of a text. -/
lemma suffix_replaceFrom {old new : List Char} (h : ∀ d ∈ ds, d ∉ old) {pending : ℕ}
    (hpending : pending ≤ cs.length) : ds <:+ replaceFrom old new pending (cs ++ ds) := by
  induction cs generalizing pending with
  | nil =>
    obtain rfl : pending = 0 := Nat.le_zero.mp hpending
    simp [replaceFrom_of_forall h]
  | cons c cs ih =>
    cases pending with
    | succ pending => exact ih (Nat.le_of_succ_le_succ hpending)
    | zero =>
      rw [List.cons_append, replaceFrom]
      split_ifs with hempty hmatch
      · exact (ih (Nat.zero_le _)).trans (List.suffix_cons _ _)
      · refine (ih ?_).trans (List.suffix_append _ _)
        -- What is replaced ends before `ds` begins.
        have hlength : old.length ≤ (c :: cs).length := by
          rcases List.prefix_or_prefix_of_prefix (stripPrefix?_isSome_iff.mp hmatch)
            (List.prefix_append (c :: cs) ds) with hfront | ⟨rest, rfl⟩
          · exact hfront.length_le
          · have hrest := (List.prefix_append_right_inj _).mp (stripPrefix?_isSome_iff.mp hmatch)
            cases rest with
            | nil => simp
            | cons d rest =>
              have hd : d ∈ ds := hrest.subset List.mem_cons_self
              exact absurd (List.mem_append_right _ List.mem_cons_self) (h d hd)
        rw [List.length_cons] at hlength
        omega
      · exact (ih (Nat.zero_le _)).trans (List.suffix_cons _ _)

lemma suffix_replace {old new s : String} (h : ∀ d ∈ ds, d ∉ old.toList) (hs : ds <:+ s.toList) :
    ds <:+ (replace old new s).toList := by
  obtain ⟨cs, heq⟩ := hs
  rw [replace, String.toList_ofList, ← heq]
  exact suffix_replaceFrom h (Nat.zero_le _)

/-- Characters of a kind stay as many if the texts that are put in have as many of them as the texts
that are taken out. -/
lemma countP_replaceFrom {P : Char → Bool} {old new : List Char}
    (h : new.countP P = old.countP P) (pending : ℕ) (cs : List Char) :
    (replaceFrom old new pending cs).countP P + (cs.take pending).countP P = cs.countP P := by
  induction cs generalizing pending with
  | nil => simp [replaceFrom]
  | cons c cs ih =>
    cases pending with
    | succ pending =>
      rw [replaceFrom, List.take_succ_cons, List.countP_cons, List.countP_cons, ← Nat.add_assoc, ih]
    | zero =>
      rw [replaceFrom, List.take_zero, List.countP_nil, Nat.add_zero]
      split_ifs with hempty hmatch
      · rw [List.countP_cons, List.countP_cons, ← ih 0, List.take_zero, List.countP_nil,
          Nat.add_zero]
      · obtain ⟨rest, hrest⟩ := stripPrefix?_isSome_iff.mp hmatch
        cases old with
        | nil => simp at hempty
        | cons d old =>
          obtain ⟨rfl, rfl⟩ : d = c ∧ old ++ rest = cs := List.cons.inj hrest
          have hlater := ih old.length
          rw [List.take_left] at hlater
          rw [List.countP_append, h, List.countP_cons, List.countP_cons, ← hlater,
            List.length_cons, Nat.add_sub_cancel]
          omega
      · rw [List.countP_cons, List.countP_cons, ← ih 0, List.take_zero, List.countP_nil,
          Nat.add_zero]

lemma countP_replace {P : Char → Bool} {old new : String}
    (h : new.toList.countP P = old.toList.countP P) (s : String) :
    (replace old new s).toList.countP P = s.toList.countP P := by
  have hcount := countP_replaceFrom h 0 s.toList
  rw [List.take_zero, List.countP_nil, Nat.add_zero] at hcount
  rw [replace, String.toList_ofList, hcount]

lemma replaceFrom_singleton (c : Char) (new cs : List Char) :
    replaceFrom [c] new 0 cs = cs.flatMap fun d => if d = c then new else [d] := by
  induction cs with
  | nil => rfl
  | cons d cs ih =>
    by_cases h : c = d
    · subst h
      simp [replaceFrom, stripPrefix?, ih]
    · have hne : d ≠ c := fun heq => h heq.symm
      simp [replaceFrom, stripPrefix?, h, hne, ih]

/-- Replacing a character takes a text apart character by character. -/
lemma replace_singleton (c : Char) (new s : String) :
    replace (String.singleton c) new s
      = String.ofList (s.toList.flatMap fun d => if d = c then new.toList else [d]) := by
  rw [replace, String.toList_singleton, replaceFrom_singleton]

lemma replace_ne_empty {old new s : String} (hnew : new ≠ "") (hs : s ≠ "") :
    replace old new s ≠ "" := by
  obtain ⟨c, cs, hchars⟩ := List.exists_cons_of_ne_nil (String.toList_eq_nil_iff.not.mpr hs)
  intro hnil
  rw [replace, hchars, String.ofList_eq_empty_iff, replaceFrom] at hnil
  split_ifs at hnil
  exact hnew (String.toList_eq_nil_iff.mp (List.append_eq_nil_iff.mp hnil).1)

/-! ### Occurrence -/

lemma occursIn_iff {part : List Char} : occursIn part cs = true ↔ part <:+: cs := by
  induction cs with
  | nil => simp [occursIn]
  | cons d cs ih =>
    rw [occursIn, Bool.or_eq_true, stripPrefix?_isSome_iff, ih, List.infix_cons_iff]

end OpenApiTypes.Text
