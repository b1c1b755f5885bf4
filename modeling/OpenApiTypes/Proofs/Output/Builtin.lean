/-
New names and the names that generated code takes for granted.

* `Text.isLower_of_mem_upperChars`: there is no small letter among the capitals of a letter,
  `NamingConvention.Capitalizes.isLower_head_apply`: so names do not begin with one under the
  conventions that capitalize every word;
* `Output.Registry.builtinNames`: the built-in types, and the globals that are referred to;
* `Output.Registry.unguarded`: those of them that no underscore is put before;
* `Output.Registry.mem_builtinNames_iff_of_request`: a new name is a built-in one exactly if the
  reference asks for one of the latter.
-/
import OpenApiTypes.Proofs.Output.Log
import OpenApiTypes.Proofs.Text.Expansion
import OpenApiTypes.Proofs.Text.Pieces
import OpenApiTypes.Proofs.TypeScript.Mentions

namespace OpenApiTypes

/-! ### Capitals -/

namespace Text

variable {c d : Char}

/-- A code point of a small letter from `a` to `z`. -/
def IsSmall (n : Nat) : Prop := 0x61 ≤ n ∧ n ≤ 0x7A

instance (n : Nat) : Decidable (IsSmall n) := inferInstanceAs (Decidable (_ ∧ _))

lemma isSmall_of_isLower (h : c.isLower = true) : IsSmall c.toNat := by
  change (decide _ && decide _) = true at h
  simpa [IsSmall, UInt32.le_iff_toNat_le] using h

lemma isSmall_of_isLower_ofNat {n : Nat} (h : (Char.ofNat n).isLower = true) : IsSmall n := by
  by_cases hn : n.isValidChar
  · have hcode : (Char.ofNat n).toNat = n := by
      rw [Char.ofNat, dif_pos hn]
      rfl
    rw [← hcode]
    exact isSmall_of_isLower h
  · rw [Char.ofNat, dif_neg hn] at h
    exact absurd h (by decide)

/-- No shift to upper case leads to a small letter. -/
lemma not_isSmall_of_find? {n m : Nat} (h : CodeShift.find? upperShifts n = some m) :
    ¬ IsSmall m := by
  have hshifts : ∀ s ∈ upperShifts, ((s.last : Int) + s.offset).toNat < 0x61
      ∨ 0x7A < ((s.first : Int) + s.offset).toNat := by
    decide +kernel
  obtain ⟨s, hs, hhas, rfl⟩ := exists_of_find? h
  simp only [CodeRun.has, Bool.and_eq_true, decide_eq_true_eq] at hhas
  obtain ⟨⟨hfirst, hlast⟩, -⟩ := hhas
  rw [IsSmall]
  rcases hshifts s hs with h | h
  · omega
  · omega

/-- There is no small letter among the capitals of a character. -/
lemma isLower_of_mem_upperChars (h : d ∈ upperChars c) : d.isLower = false := by
  have hexpansions : ∀ e ∈ upperExpansions, ∀ n ∈ e.2, ¬ IsSmall n := by decide +kernel
  have hmoved : ∀ n < 0x7B, IsSmall n → (CodeShift.find? upperShifts n).isSome := by decide +kernel
  rw [← Bool.not_eq_true]
  intro hd
  rw [upperChars] at h
  cases hshift : CodeShift.find? upperShifts c.toNat with
  | some n =>
    rw [hshift, List.mem_singleton] at h
    exact not_isSmall_of_find? hshift (isSmall_of_isLower_ofNat (h ▸ hd))
  | none =>
    rw [hshift] at h
    cases hlookup : upperExpansions.lookup c.toNat with
    | some ns =>
      rw [hlookup] at h
      obtain ⟨n, hn, rfl⟩ := List.mem_map.mp h
      exact hexpansions _ (Entries.mem_of_get? hlookup) n hn (isSmall_of_isLower_ofNat hd)
    | none =>
      obtain rfl : d = c := by simpa [hlookup] using h
      have hsmall := isSmall_of_isLower hd
      have := hmoved d.toNat (Nat.lt_succ_of_le hsmall.2) hsmall
      simp [hshift] at this

end Text

/-! ### Conventions -/

namespace Naming

variable {word : List Char} {d : Char}

lemma isLower_of_mem_upperWord (h : d ∈ upperWord word) : d.isLower = false := by
  obtain ⟨c, -, hd⟩ := List.mem_flatMap.mp h
  exact Text.isLower_of_mem_upperChars hd

lemma isLower_head_capitalWord (h : (capitalWord word).head? = some d) : d.isLower = false := by
  cases word with
  | nil => simp [capitalWord] at h
  | cons c rest =>
    rw [capitalWord, List.head?_append_of_ne_nil _ (Text.upperChars_ne_nil c)] at h
    exact Text.isLower_of_mem_upperChars (List.mem_of_head? h)

lemma isLower_head_pascal {name : String} (h : (pascal name).toList.head? = some d) :
    d.isLower = false := by
  rw [pascal, String.toList_ofList, List.head?_flatMap] at h
  obtain ⟨word, -, hhead⟩ := List.exists_of_findSome?_eq_some h
  exact isLower_head_capitalWord hhead

lemma isLower_head_screaming {name : String} (h : (screaming name).toList.head? = some d) :
    d.isLower = false := by
  rcases Text.mem_or_of_mem_joinWith (List.mem_of_head? h) with hd | ⟨piece, hpiece, hd⟩
  · obtain rfl : d = '_' := by simpa using hd
    decide
  · obtain ⟨word, -, rfl⟩ := List.mem_map.mp hpiece
    exact isLower_of_mem_upperWord (by simpa using hd)

end Naming

namespace NamingConvention

/-- The conventions under which every word begins with a capital. -/
def Capitalizes (convention : NamingConvention) : Prop :=
  convention = .pascal ∨ convention = .screaming

lemma head_guardDigit {text : String} {d : Char} (h : (guardDigit text).toList.head? = some d) :
    d = '_' ∨ text.toList.head? = some d := by
  rw [guardDigit] at h
  split at h
  · split_ifs at h
    · exact .inl (by simpa using h.symm)
    · exact .inr h
  · exact .inr h

/-- Under them no name begins with a small letter. -/
lemma Capitalizes.isLower_head_apply {convention : NamingConvention} (h : convention.Capitalizes)
    {name : String} {d : Char} (hd : (convention.apply name).toList.head? = some d) :
    d.isLower = false := by
  rcases h with rfl | rfl <;> simp only [apply] at hd <;>
    rcases head_guardDigit hd with rfl | hd
  · decide
  · exact Naming.isLower_head_pascal hd
  · decide
  · exact Naming.isLower_head_screaming hd

end NamingConvention

namespace Output.Registry

open TypeScript (Keyword builtinTypes)

variable {r : Registry} {pointer file name : String} {ns : Namespace}

/-! ### Names that are built in -/

/-- The names of the built-in types, and of the types and values that generated code refers to
without declaring them. -/
def builtinNames : List String :=
  Keyword.all.map Keyword.text ++ builtinTypes ++ ["Promise", "BigInt"]

/-- The built-in names that are not reserved. -/
def unguarded : List String := builtinNames.filter fun word => !reserved.contains word

lemma unguarded_eq : unguarded = ["bigint", "never", "unknown"] := by decide +kernel

/-- The name that a reference asks for is a built-in one only if that is not reserved. -/
lemma baseName_mem_builtinNames_iff (pointer : String) (convention : NamingConvention) :
    baseName pointer convention ∈ builtinNames
      ↔ convention.apply (Pointer.lastName pointer) ∈ unguarded := by
  have hfirst : ∀ w ∈ builtinNames, w.toList.head? ≠ some '_' := by decide +kernel
  rw [baseName, unguarded, List.mem_filter]
  split_ifs with hreserved
  · simp only [hreserved, Bool.not_true, Bool.false_eq_true, and_false, iff_false]
    exact fun h => hfirst _ h (by simp)
  · rw [Bool.not_eq_true] at hreserved
    simp only [hreserved, Bool.not_false, and_true]

/-- The names that are not reserved all begin with a small letter. -/
lemma isLower_head_of_mem_unguarded :
    ∀ word ∈ unguarded, word.toList.head?.any Char.isLower = true := by
  rw [unguarded_eq]
  decide +kernel

/-- **A new name is built in only if it is not reserved.** A name that is created for a reference is
a built-in one exactly if the last part of the reference becomes such a word under the convention of
the file, none that is reserved, and the word is not taken. It is that word then, and the convention
does not begin every word with a capital. -/
theorem mem_builtinNames_iff_of_request
    (h : (r.request pointer ns file true).1 = .active name true) :
    (name ∈ builtinNames
        ↔ (r.conventionOf file).apply (Pointer.lastName pointer) ∈ unguarded
          ∧ isTaken (r.scopeOf ns file).taken
            ((r.conventionOf file).apply (Pointer.lastName pointer)) = false)
      ∧ (name ∈ builtinNames → name ∈ unguarded ∧ ¬ (r.conventionOf file).Capitalizes) := by
  have hname : name = uniqueName (r.scopeOf ns file).taken
      (baseName pointer (r.conventionOf file)) := (newName_of_request h).symm
  set convention := r.conventionOf file
  set word := convention.apply (Pointer.lastName pointer) with hword
  have hbase : word ∈ unguarded → baseName pointer convention = word := by
    intro hmem
    have hreserved : reserved.contains word = false := by
      simpa using (List.mem_filter.mp hmem).2
    rw [baseName, ← hword, hreserved, if_neg Bool.false_ne_true]
  have hiff : name ∈ builtinNames
      ↔ word ∈ unguarded ∧ isTaken (r.scopeOf ns file).taken word = false := by
    rw [hname]
    cases htaken : isTaken (r.scopeOf ns file).taken (baseName pointer convention) with
    | true =>
      obtain ⟨n, hn⟩ := exists_uniqueName_eq htaken
      rw [hn]
      refine iff_of_false (append_number_notMem (by decide +kernel) _ n) ?_
      rintro ⟨hmem, hfree⟩
      rw [hbase hmem, hfree] at htaken
      exact Bool.false_ne_true htaken
    | false =>
      rw [uniqueName_of_free htaken, baseName_mem_builtinNames_iff, ← hword]
      exact (and_iff_left_of_imp fun hmem => by rwa [← hbase hmem]).symm
  refine ⟨hiff, fun hmem => ?_⟩
  obtain ⟨hmem, htaken⟩ := hiff.mp hmem
  have heq : name = word := by
    rw [hname, hbase hmem, uniqueName_of_free htaken]
  refine ⟨heq ▸ hmem, fun hcapitalizes => ?_⟩
  obtain ⟨d, hhead, hd⟩ := (Option.any_eq_true _ _).mp (isLower_head_of_mem_unguarded word hmem)
  exact absurd (hcapitalizes.isLower_head_apply hhead) (by simp [hd])

/-- A file in which names are written in camel case, and nothing has a name yet. -/
def camelFile : Registry := registerFile [] "types" .camel

/-- A reserved word gets an underscore before it. -/
theorem mem_builtinNames_iff_of_request_undefined :
    (camelFile.request "#/components/schemas/Undefined" .type "types" true).1
        = .active "_undefined" true ∧ "_undefined" ∉ builtinNames := by
  have h : (camelFile.request "#/components/schemas/Undefined" .type "types" true).1
      = .active "_undefined" true := by
    decide +kernel
  refine ⟨h, fun hmem => ?_⟩
  obtain ⟨hword, -⟩ := (mem_builtinNames_iff_of_request h).1.mp hmem
  exact absurd hword (by decide +kernel)

/-- Not every new name differs from all built-in ones. -/
theorem exists_builtin : ∃ (r : Registry) (pointer file name : String) (ns : Namespace),
    (r.request pointer ns file true).1 = .active name true ∧ name ∈ builtinNames :=
  ⟨camelFile, "#/components/schemas/Unknown", "types", "unknown", .type, by decide +kernel,
    by decide +kernel⟩

end Output.Registry

end OpenApiTypes
