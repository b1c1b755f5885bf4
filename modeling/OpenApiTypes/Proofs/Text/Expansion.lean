/-
Characters that become several characters in upper or lower case.

* `Text.Case`: upper and lower case;
* `Text.formsOf`: what a character becomes in one after the other;
* `Text.Varies`: a character becomes several ones sooner or later, `Text.length_formsOf`: all others
  stay single;
* `Text.Leads`: a character that is moved to another one in lower case, `Text.eq_or_leads`: no other
  character becomes one that varies;
* `Text.weight`: a sum over the characters of a text;
* `Text.weight_applyAll`: how it changes with the case;
* `Text.length_applyAll_eq`: texts that weigh the same, in several cases together, are of the same
  length in every one.
-/
import OpenApiTypes.Proofs.Text.Lettering
import Mathlib.Data.List.Perm.Basic

namespace OpenApiTypes.Text

/-! ### Cases -/

/-- What letters are changed to. -/
inductive Case where
  | upper
  | lower
deriving DecidableEq

namespace Case

/-- A character in a case, without regard to its surroundings. -/
def chars : Case → Char → List Char
  | upper => upperChars
  | lower => lowerChars

/-- A text in a case. -/
def apply : Case → String → String
  | upper => uppercase
  | lower => lowercase

end Case

/-- What a character becomes in one case after the other, without regard to its surroundings. -/
def formsOf : List Case → Char → List Char
  | [], c => [c]
  | k :: cases, c => (k.chars c).flatMap (formsOf cases)

/-- A text in one case after the other. -/
def applyAll : List Case → String → String
  | [], s => s
  | k :: cases, s => applyAll cases (k.apply s)

/-! ### Characters that vary -/

/-- The code points of the characters that become several ones in upper or lower case, or in one
after the other. -/
def varyingCodes : List Nat := 0x130 :: 0x1E9E :: upperExpansions.map Prod.fst

/-- A character becomes several ones in some case. -/
def Varies (c : Char) : Prop := c.toNat ∈ varyingCodes

instance (c : Char) : Decidable (Varies c) := inferInstanceAs (Decidable (c.toNat ∈ varyingCodes))

variable {c d e : Char}

/-- A character that is moved comes from one of the shifts. -/
lemma exists_of_find? {shifts : List CodeShift} {n m : Nat}
    (h : CodeShift.find? shifts n = some m) : ∃ s ∈ shifts,
      CodeRun.has ⟨s.first, s.last, s.step⟩ n = true ∧ m = ((n : Int) + s.offset).toNat := by
  induction shifts with
  | nil => simp [CodeShift.find?] at h
  | cons s shifts ih =>
    rw [CodeShift.find?] at h
    split_ifs at h with hfirst hhas
    · exact ⟨s, List.mem_cons_self, hhas, (Option.some.inj h).symm⟩
    · obtain ⟨s', hs', hrest⟩ := ih h
      exact ⟨s', List.mem_cons_of_mem _ hs', hrest⟩

/-- Code points between which all varying ones lie. -/
def varyingBlocks : List (Nat × Nat) :=
  [(0xDF, 0xDF), (0x130, 0x130), (0x149, 0x149), (0x1F0, 0x1F0), (0x390, 0x390), (0x3B0, 0x3B0),
    (0x587, 0x587), (0x1E96, 0x1E9E), (0x1F50, 0x1F56), (0x1F80, 0x1FFC), (0xFB00, 0xFB17)]

lemma exists_varyingBlock : ∀ m ∈ varyingCodes, m ≠ 0 ∧ ∃ b ∈ varyingBlocks, b.1 ≤ m ∧ m ≤ b.2 := by
  decide +kernel

/-- Wherever a shift moves a code point to one that varies, that is allowed. Most shifts do not come
near them. -/
def guards (allowed : Nat → Nat → Bool) (s : CodeShift) : Bool :=
  varyingBlocks.all fun b =>
    Nat.blt ((s.last : Int) + s.offset).toNat b.1 || Nat.blt b.2 ((s.first : Int) + s.offset).toNat
      || varyingCodes.all fun m =>
        !CodeRun.has ⟨s.first, s.last, s.step⟩ ((m : Int) - s.offset).toNat
          || allowed ((m : Int) - s.offset).toNat m

lemma allowed_of_guards {allowed : Nat → Nat → Bool} {s : CodeShift} (h : guards allowed s = true)
    {n : Nat} (hn : CodeRun.has ⟨s.first, s.last, s.step⟩ n = true)
    (hm : ((n : Int) + s.offset).toNat ∈ varyingCodes) :
    allowed n ((n : Int) + s.offset).toNat = true := by
  obtain ⟨hne, b, hb, hfirst, hlast⟩ := exists_varyingBlock _ hm
  have hbounds : s.first ≤ n ∧ n ≤ s.last := by
    simp only [CodeRun.has, Bool.and_eq_true, decide_eq_true_eq] at hn
    exact hn.1
  have hback : ((((n : Int) + s.offset).toNat : Int) - s.offset).toNat = n := by omega
  have hcheck := List.all_eq_true.mp h b hb
  simp only [Bool.or_eq_true, Nat.blt_eq] at hcheck
  rcases hcheck with (hcheck | hcheck) | hcheck
  · omega
  · omega
  · have hcode := List.all_eq_true.mp hcheck _ hm
    rw [hback, hn] at hcode
    simpa using hcode

/-- A character is moved to another one in lower case. -/
def Leads (c : Char) : Prop := (CodeShift.find? lowerShifts c.toNat).isSome = true

instance (c : Char) : Decidable (Leads c) :=
  inferInstanceAs (Decidable ((CodeShift.find? lowerShifts c.toNat).isSome = true))

/-- Only characters that vary are moved to such ones in lower case, and only once. -/
def endsLead (n m : Nat) : Bool :=
  varyingCodes.contains n && (CodeShift.find? lowerShifts m).isNone

lemma guards_lowerShifts : lowerShifts.all (guards endsLead) = true := by decide +kernel

/-- None is moved to such ones in upper case. -/
lemma guards_upperShifts : upperShifts.all (guards fun _ _ => false) = true := by decide +kernel

lemma notMem_of_mem_upperExpansions :
    ∀ e ∈ upperExpansions, ∀ n ∈ e.2, n ∉ varyingCodes := by
  decide +kernel

lemma toNat_eq_of_varies {n : Nat} (h : Varies (Char.ofNat n)) : (Char.ofNat n).toNat = n := by
  by_cases hn : n.isValidChar
  · rw [Char.ofNat, dif_pos hn]
    rfl
  · rw [Char.ofNat, dif_neg hn] at h
    exact absurd h (by decide +kernel)

/-- A character that varies comes, in upper case, from itself only. -/
lemma eq_of_mem_upperChars (hd : d ∈ upperChars c) (h : Varies d) : d = c := by
  rw [upperChars] at hd
  cases hshift : CodeShift.find? upperShifts c.toNat with
  | some n =>
    rw [hshift, List.mem_singleton] at hd
    obtain ⟨s, hs, hhas, rfl⟩ := exists_of_find? hshift
    rw [hd, Varies, toNat_eq_of_varies (hd ▸ h)] at h
    have := allowed_of_guards (List.all_eq_true.mp guards_upperShifts s hs) hhas h
    exact absurd this (by simp)
  | none =>
    rw [hshift] at hd
    cases hlookup : upperExpansions.lookup c.toNat with
    | none => simpa [hlookup] using hd
    | some ns =>
      rw [hlookup] at hd
      obtain ⟨n, hn, rfl⟩ := List.mem_map.mp hd
      rw [Varies, toNat_eq_of_varies h] at h
      exact absurd h (notMem_of_mem_upperExpansions _ (Entries.mem_of_get? hlookup) n hn)

/-- In lower case it comes from itself or from one that leads to it. -/
lemma eq_or_leads_of_mem_lowerChars (hd : d ∈ lowerChars c) (h : Varies d) :
    d = c ∨ Varies c ∧ Leads c ∧ ¬ Leads d := by
  have hdotted : ¬ Varies 'i' ∧ ¬ Varies (Char.ofNat 0x307) := by decide +kernel
  rw [lowerChars] at hd
  split_ifs at hd
  · rcases List.mem_pair.mp hd with rfl | rfl
    · exact absurd h hdotted.1
    · exact absurd h hdotted.2
  · cases hshift : CodeShift.find? lowerShifts c.toNat with
    | some n =>
      rw [hshift, List.mem_singleton] at hd
      obtain ⟨s, hs, hhas, rfl⟩ := exists_of_find? hshift
      have hcode := toNat_eq_of_varies (hd ▸ h)
      rw [hd, Varies, hcode] at h
      have hends := allowed_of_guards (List.all_eq_true.mp guards_lowerShifts s hs) hhas h
      simp only [endsLead, Bool.and_eq_true, List.contains_iff_mem] at hends
      refine .inr ⟨hends.1, by simp [Leads, hshift], ?_⟩
      rw [Leads, hd, hcode, Option.isNone_iff_eq_none.mp hends.2]
      simp
    | none =>
      rw [hshift] at hd
      exact .inl (List.mem_singleton.mp hd)

lemma eq_or_leads (k : Case) (hd : d ∈ k.chars c) (h : Varies d) :
    d = c ∨ Varies c ∧ Leads c ∧ ¬ Leads d := by
  cases k with
  | upper => exact .inl (eq_of_mem_upperChars hd h)
  | lower => exact eq_or_leads_of_mem_lowerChars hd h

/-- So it does in one case after the other. -/
lemma eq_or_leads_of_mem_formsOf {cases : List Case} (hd : d ∈ formsOf cases c) (h : Varies d) :
    d = c ∨ Varies c ∧ Leads c ∧ ¬ Leads d := by
  induction cases generalizing c with
  | nil => exact .inl (List.mem_singleton.mp hd)
  | cons k cases ih =>
    obtain ⟨e, he, hd⟩ := List.mem_flatMap.mp hd
    rcases ih hd with rfl | ⟨hvaries, hleads, hend⟩
    · exact eq_or_leads k he h
    · rcases eq_or_leads k he hvaries with rfl | ⟨-, -, hnot⟩
      · exact .inr ⟨hvaries, hleads, hend⟩
      · exact absurd hleads hnot

/-- A character that does not vary stays single. -/
lemma exists_chars_eq (k : Case) (hc : ¬ Varies c) : ∃ d, k.chars c = [d] := by
  cases k with
  | upper =>
    rw [Case.chars, upperChars]
    cases CodeShift.find? upperShifts c.toNat with
    | some n => exact ⟨_, rfl⟩
    | none =>
      cases hlookup : upperExpansions.lookup c.toNat with
      | none => exact ⟨c, rfl⟩
      | some ns =>
        have hmem := List.mem_map_of_mem (f := Prod.fst) (Entries.mem_of_get? hlookup)
        exact absurd (List.mem_cons_of_mem _ (List.mem_cons_of_mem _ hmem)) hc
  | lower =>
    have hdotted : c.toNat ≠ 0x130 := fun heq => hc (by rw [Varies, heq]; decide +kernel)
    rw [Case.chars, lowerChars, if_neg hdotted]
    cases CodeShift.find? lowerShifts c.toNat with
    | some n => exact ⟨_, rfl⟩
    | none => exact ⟨c, rfl⟩

lemma length_formsOf (cases : List Case) (hc : ¬ Varies c) : (formsOf cases c).length = 1 := by
  induction cases generalizing c with
  | nil => rfl
  | cons k cases ih =>
    obtain ⟨d, hd⟩ := exists_chars_eq k hc
    have hvaries : ¬ Varies d := by
      intro h
      rcases eq_or_leads k (hd ▸ List.mem_singleton_self d) h with rfl | ⟨hc', -⟩
      · exact hc h
      · exact hc hc'
    simp [formsOf, hd, ih hvaries]

/-! ### Weights -/

/-- The sum of the weights of characters. -/
def weight (φ : Char → Nat) : List Char → Nat
  | [] => 0
  | c :: cs => φ c + weight φ cs

variable {φ : Char → Nat} {cs ds : List Char}

@[simp] lemma weight_nil (φ : Char → Nat) : weight φ [] = 0 := rfl

@[simp] lemma weight_cons (φ : Char → Nat) (c : Char) (cs : List Char) :
    weight φ (c :: cs) = φ c + weight φ cs := rfl

lemma weight_append (φ : Char → Nat) (cs ds : List Char) :
    weight φ (cs ++ ds) = weight φ cs + weight φ ds := by
  induction cs with
  | nil => simp
  | cons c cs ih => simp [ih, Nat.add_assoc]

lemma weight_add (φ ψ : Char → Nat) (cs : List Char) :
    weight (fun c => φ c + ψ c) cs = weight φ cs + weight ψ cs := by
  induction cs with
  | nil => rfl
  | cons c cs ih =>
    simp only [weight_cons, ih]
    omega

lemma weight_flatMap (φ : Char → Nat) (f : Char → List Char) (cs : List Char) :
    weight φ (cs.flatMap f) = weight (fun c => weight φ (f c)) cs := by
  induction cs with
  | nil => rfl
  | cons c cs ih => rw [List.flatMap_cons, weight_append, ih, weight_cons]

@[simp] lemma weight_zero (cs : List Char) : weight (fun _ => 0) cs = 0 := by
  induction cs with
  | nil => rfl
  | cons c cs ih => rw [weight_cons, ih]

lemma weight_one (cs : List Char) : weight (fun _ => 1) cs = cs.length := by
  induction cs with
  | nil => rfl
  | cons c cs ih => rw [weight_cons, ih, List.length_cons, Nat.add_comm]

/-- The order of characters does not matter. -/
lemma weight_perm (φ : Char → Nat) (h : cs.Perm ds) : weight φ cs = weight φ ds := by
  induction h with
  | nil => rfl
  | cons c _ ih => rw [weight_cons, weight_cons, ih]
  | swap c d cs => exact Nat.add_left_comm _ _ _
  | trans _ _ ih ih' => exact ih.trans ih'

/-- Small sigmas weigh the same wherever they stand. -/
def Levels (φ : Char → Nat) : Prop := φ finalSigma = φ 'σ'

lemma weight_lowercaseFrom (hφ : Levels φ) (before cs : List Char) :
    weight φ (lowercaseFrom before cs) = weight (fun c => weight φ (lowerChars c)) cs := by
  have hsigma : lowerChars capitalSigma = ['σ'] := by decide +kernel
  induction cs generalizing before with
  | nil => rfl
  | cons c cs ih =>
    rw [lowercaseFrom, weight_append, ih, weight_cons]
    split_ifs with hend
    · obtain rfl : c = capitalSigma := by simp_all
      rw [hsigma]
      have hsame : φ finalSigma = φ 'σ' := hφ
      simp [hsame]
    · rfl

lemma weight_apply (hφ : Levels φ) (k : Case) (s : String) :
    weight φ (k.apply s).toList = weight (fun c => weight φ (k.chars c)) s.toList := by
  cases k with
  | upper => rw [Case.apply, uppercase, String.toList_ofList, weight_flatMap]; rfl
  | lower => rw [Case.apply, lowercase, String.toList_ofList, weight_lowercaseFrom hφ]; rfl

lemma levels_formsOf (hφ : Levels φ) (cases : List Case) :
    Levels fun c => weight φ (formsOf cases c) := by
  have hupper : upperChars finalSigma = upperChars 'σ' := by decide +kernel
  have hlower : lowerChars finalSigma = [finalSigma] ∧ lowerChars 'σ' = ['σ'] := by decide +kernel
  induction cases with
  | nil => simpa [Levels, formsOf] using hφ
  | cons k cases ih =>
    cases k with
    | upper => simp only [Levels, formsOf, Case.chars, hupper]
    | lower => simpa [Levels, formsOf, Case.chars, hlower] using ih

/-- A text weighs in one case after the other what its characters become. -/
lemma weight_applyAll (hφ : Levels φ) (cases : List Case) (s : String) :
    weight φ (applyAll cases s).toList = weight (fun c => weight φ (formsOf cases c)) s.toList := by
  induction cases generalizing s with
  | nil => simp [applyAll, formsOf]
  | cons k cases ih =>
    rw [applyAll, ih, weight_apply (levels_formsOf hφ cases)]
    simp only [formsOf, weight_flatMap]

/-! ### Counting -/

lemma perm_filter_of_count {p : Char → Bool} (h : ∀ c, p c = true → cs.count c = ds.count c) :
    (cs.filter p).Perm (ds.filter p) := by
  refine List.perm_iff_count.mpr fun c => ?_
  by_cases hc : p c = true
  · rw [List.count_filter hc, List.count_filter hc, h c hc]
  · rw [List.count_eq_zero_of_not_mem (by simp [hc]), List.count_eq_zero_of_not_mem (by simp [hc])]

/-- A character can be counted apart from all others that weigh anything. -/
lemma weight_eq_count_add (φ : Char → Nat) (c : Char) (cs : List Char) :
    weight φ cs = cs.count c * φ c + weight φ (cs.filter fun d => d ≠ c ∧ φ d ≠ 0) := by
  induction cs with
  | nil => simp
  | cons d cs ih =>
    by_cases hd : d = c
    · subst hd
      have hfilter : ((d :: cs).filter fun e => e ≠ d ∧ φ e ≠ 0)
          = cs.filter fun e => e ≠ d ∧ φ e ≠ 0 := by simp
      rw [weight_cons, ih, hfilter, List.count_cons_self, Nat.succ_mul]
      omega
    · by_cases hzero : φ d = 0
      · simp [ih, hd, hzero]
      · have hfilter : ((d :: cs).filter fun e => e ≠ c ∧ φ e ≠ 0)
            = d :: cs.filter fun e => e ≠ c ∧ φ e ≠ 0 := by simp [hd, hzero]
        rw [weight_cons, ih, hfilter, List.count_cons_of_ne hd, weight_cons]
        omega

/-- If two texts weigh the same and hold the same number of all other characters that weigh
anything, they hold the same number of the last one. -/
lemma count_eq_of_weight_eq (h : weight φ cs = weight φ ds) (hc : φ c ≠ 0)
    (hothers : ∀ d ≠ c, φ d ≠ 0 → cs.count d = ds.count d) : cs.count c = ds.count c := by
  have hperm : (cs.filter fun d => d ≠ c ∧ φ d ≠ 0).Perm (ds.filter fun d => d ≠ c ∧ φ d ≠ 0) :=
    perm_filter_of_count fun d hd => by
      obtain ⟨hne, hweight⟩ := of_decide_eq_true hd
      exact hothers d hne hweight
  rw [weight_eq_count_add φ c cs, weight_eq_count_add φ c ds, weight_perm φ hperm] at h
  exact Nat.eq_of_mul_eq_mul_right (Nat.pos_of_ne_zero hc) (Nat.add_right_cancel h)

/-- Two texts hold the same number of each character that varies. -/
def SameVarying (cs ds : List Char) : Prop := ∀ c, Varies c → cs.count c = ds.count c

/-- Characters that do not vary and weigh the same can be counted together. -/
lemma weight_eq_add {n : Nat} (hφ : ∀ c, ¬ Varies c → φ c = n) (cs : List Char) :
    weight φ cs = weight φ (cs.filter (Varies ·)) + n * (cs.filter (¬ Varies ·)).length := by
  induction cs with
  | nil => rfl
  | cons c cs ih =>
    by_cases hc : Varies c
    · simp [hc, ih, Nat.add_assoc]
    · have hfilter : ((c :: cs).filter (¬ Varies ·)).length
          = (cs.filter (¬ Varies ·)).length + 1 := by simp [hc]
      rw [weight_cons, hfilter, Nat.mul_succ, ih, hφ c hc,
        List.filter_cons_of_neg (by simpa using hc)]
      omega

lemma SameVarying.weight_filter (h : SameVarying cs ds) (φ : Char → Nat) :
    weight φ (cs.filter (Varies ·)) = weight φ (ds.filter (Varies ·)) :=
  weight_perm φ (perm_filter_of_count fun c hc => h c (of_decide_eq_true hc))

/-- What a character becomes in several cases together. -/
def together (total : List (List Case)) (c : Char) : List Char :=
  total.flatMap fun cases => formsOf cases c

section

variable {total : List (List Case)} (hplain : [] ∈ total)
  (h : ∀ φ, Levels φ → weight (fun c => weight φ (together total c)) cs
    = weight (fun c => weight φ (together total c)) ds)

include hplain h

/-- A character that varies is counted once all those are that lead to it. -/
lemma count_eq_of_together (hc : Varies c)
    (hothers : ∀ d, Varies d → Leads d → ¬ Leads c → cs.count d = ds.count d) :
    cs.count c = ds.count c := by
  set φ : Char → Nat := fun d => if d = c then 1 else 0
  have hcount : ∀ es, weight φ es = es.count c := fun es => by
    induction es with
    | nil => rfl
    | cons d es ih => by_cases hd : d = c <;> simp [φ, ih, hd, Nat.add_comm]
  have hlevels : Levels φ := by
    have hsigma : ¬ Varies finalSigma ∧ ¬ Varies 'σ' := by decide +kernel
    have hfinal : finalSigma ≠ c := fun heq => hsigma.1 (heq ▸ hc)
    have hsmall : 'σ' ≠ c := fun heq => hsigma.2 (heq ▸ hc)
    simp [Levels, φ, hfinal, hsmall]
  refine count_eq_of_weight_eq (h φ hlevels) ?_ fun d hd hweight => ?_
  · rw [hcount, Nat.ne_zero_iff_zero_lt, List.count_pos_iff]
    exact List.mem_flatMap.mpr ⟨[], hplain, List.mem_singleton_self c⟩
  · rw [hcount, Nat.ne_zero_iff_zero_lt, List.count_pos_iff] at hweight
    obtain ⟨cases, -, hmem⟩ := List.mem_flatMap.mp hweight
    rcases eq_or_leads_of_mem_formsOf hmem hc with rfl | ⟨hvaries, hleads, hend⟩
    · exact absurd rfl hd
    · exact hothers d hvaries hleads hend

/-- Texts that weigh the same in several cases together, one of them as they are, hold the same
number of each character that varies. -/
lemma sameVarying_of_together : SameVarying cs ds := by
  have hleading : ∀ c, Varies c → Leads c → cs.count c = ds.count c := fun c hc hleads =>
    count_eq_of_together hplain h hc fun _ _ _ hend => absurd hleads hend
  exact fun c hc => count_eq_of_together hplain h hc fun d hd hleads _ => hleading d hd hleads

/-- They are of the same length in every case. -/
lemma weight_formsOf_eq (cases : List Case) :
    weight (fun c => (formsOf cases c).length) cs
      = weight (fun c => (formsOf cases c).length) ds := by
  have hsame := sameVarying_of_together hplain h
  have hlength : ∀ c, ¬ Varies c → weight (fun _ => 1) (together total c) = total.length := by
    intro c hc
    rw [weight_one, together, List.length_flatMap]
    simp [length_formsOf _ hc]
  have hothers : (cs.filter (¬ Varies ·)).length = (ds.filter (¬ Varies ·)).length := by
    have htotal := h (fun _ => 1) rfl
    rw [weight_eq_add hlength cs, weight_eq_add hlength ds, hsame.weight_filter] at htotal
    exact Nat.eq_of_mul_eq_mul_left (List.length_pos_of_mem hplain) (Nat.add_left_cancel htotal)
  have hsingle : ∀ c, ¬ Varies c → (formsOf cases c).length = 1 := fun c hc =>
    length_formsOf cases hc
  rw [weight_eq_add hsingle cs, weight_eq_add hsingle ds, hsame.weight_filter, hothers]

end

/-- Texts that weigh the same in several cases together, one of them as they are, are of the same
length in every case. -/
theorem length_applyAll_eq {total : List (List Case)} (hplain : [] ∈ total) {s t : String}
    (h : ∀ φ, Levels φ → weight (fun c => weight φ (together total c)) s.toList
      = weight (fun c => weight φ (together total c)) t.toList) (cases : List Case) :
    (applyAll cases s).toList.length = (applyAll cases t).toList.length := by
  have hone : Levels fun _ => 1 := rfl
  rw [← weight_one, ← weight_one, weight_applyAll hone, weight_applyAll hone]
  simp only [weight_one]
  exact weight_formsOf_eq hplain h cases

end OpenApiTypes.Text
