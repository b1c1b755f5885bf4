/-
Imports lead to the files that they name.

* `Output.IsPlain`: parts of a path that are names;
* `Output.enter`, `Output.resolve`, `Output.directoryOf`: the place that a specifier leads to, and the
  directory that a path is in;
* `Output.specifier`: steps up and then down, which is what an import consists of;
* `Output.take_commonLength`: the directories in common are the same ones on both sides;
* `Output.splitExtension_append`, `Output.exists_of_splitExtension`: what is taken off as an
  extension;
* `Output.resolve_relativeModule`: **an import leads to the file that it names**.
-/
import OpenApiTypes.Output.Path
import OpenApiTypes.Proofs.Text.Pieces

namespace OpenApiTypes.Output

open OpenApiTypes.Text

/-! ### Where a specifier leads -/

/-- Whether a part of a path is the name of a file or a directory. -/
def IsPlain (s : String) : Prop := s ≠ "" ∧ '/' ∉ s.toList ∧ s ≠ "." ∧ s ≠ ".."

instance (s : String) : Decidable (IsPlain s) := inferInstanceAs (Decidable (_ ∧ _ ∧ _ ∧ _))

/-- The place that a part of a specifier leads to. -/
def enter (place : List String) (part : String) : List String :=
  if part = "." then place else if part = ".." then place.dropLast else place ++ [part]

/-- The place that a specifier leads to from a directory. -/
def resolve (directory : List String) (specifier : String) : List String :=
  (splitOn '/' specifier).foldl enter directory

/-- The directory that a path is in. -/
def directoryOf (path : String) : List String := (parts path).dropLast.foldl enter []

section

variable {place directory down segments : List String} {up : ℕ}

lemma foldl_enter_of_plain (h : ∀ s ∈ segments, IsPlain s) :
    segments.foldl enter place = place ++ segments := by
  induction segments generalizing place with
  | nil => simp
  | cons s segments ih =>
    obtain ⟨⟨-, -, hhere, hup⟩, hrest⟩ := List.forall_mem_cons.mp h
    rw [List.foldl_cons, ih hrest, enter, if_neg hhere, if_neg hup, List.append_assoc,
      List.singleton_append]

lemma foldl_enter_replicate (up : ℕ) (place : List String) :
    (List.replicate up "..").foldl enter place = place.take (place.length - up) := by
  induction up generalizing place with
  | zero => simp
  | succ up ih =>
    rw [List.replicate_succ, List.foldl_cons, ih, enter, if_neg (by decide), if_pos rfl,
      List.length_dropLast, List.dropLast_eq_take, List.take_take]
    congr 1
    omega

/-- A specifier that goes so many directories up and then down. -/
def specifier (up : ℕ) (down : List String) : String :=
  (if up == 0 then "./" else String.join (List.replicate up "../")) ++ joinWith "/" down

lemma splitOn_ups (up : ℕ) (s : String) :
    splitOn '/' (String.join (List.replicate up "../") ++ s)
      = List.replicate up ".." ++ splitOn '/' s := by
  induction up with
  | zero => simp
  | succ up ih =>
    have hfirst := splitOn_append_singleton '/' ".." (String.join (List.replicate up "../") ++ s)
    rw [List.replicate_succ, String.join_cons, String.append_assoc, List.replicate_succ,
      List.cons_append, ← ih]
    exact hfirst

lemma resolve_specifier (hne : down ≠ []) (h : ∀ s ∈ down, IsPlain s) :
    resolve directory (specifier up down) = directory.take (directory.length - up) ++ down := by
  have hdown : splitOn '/' (joinWith "/" down) = down :=
    splitOn_joinWith hne fun s hs => (h s hs).2.1
  cases up with
  | zero =>
    have hhere : splitOn '/' ("./" ++ joinWith "/" down) = "." :: down :=
      (splitOn_append_singleton '/' "." _).trans (congrArg (["."] ++ ·) hdown)
    rw [resolve, specifier, if_pos (by rfl), hhere, List.foldl_cons, foldl_enter_of_plain h, enter,
      if_pos rfl, Nat.sub_zero, List.take_length]
  | succ up =>
    rw [resolve, specifier, if_neg (by simp), splitOn_ups, hdown, List.foldl_append,
      foldl_enter_replicate, foldl_enter_of_plain h]

end

/-! ### Directories in common -/

lemma commonLength_le (as bs : List String) :
    commonLength as bs ≤ as.length ∧ commonLength as bs ≤ bs.length := by
  fun_induction commonLength as bs with
  | case1 a as b bs heq ih => simpa using ih
  | case2 a as b bs hne => simp
  | case3 as bs => simp

lemma take_commonLength (as bs : List String) :
    as.take (commonLength as bs) = bs.take (commonLength as bs) := by
  fun_induction commonLength as bs with
  | case1 a as b bs heq ih => rw [List.take_succ_cons, List.take_succ_cons, ih, beq_iff_eq.mp heq]
  | case2 a as b bs hne => simp
  | case3 as bs => simp

/-- The path that an import of a file names. -/
def importedPath (target : String) : String :=
  match splitExtension target with
  | (stem, some "ts") => stem
  | _ => target

lemma relativeModule_eq (source target : String) :
    relativeModule source target
      = specifier ((parts source).dropLast.length
            - commonLength (parts source).dropLast (parts (importedPath target)).dropLast)
          ((parts (importedPath target)).drop
            (commonLength (parts source).dropLast (parts (importedPath target)).dropLast)) :=
  rfl

/-- From the directory of one file an import leads to the path that it names. -/
lemma resolve_of_parts_eq {source target : String} {segments : List String}
    (hsource : ∀ s ∈ parts source, IsPlain s) (hne : segments ≠ [])
    (hplain : ∀ s ∈ segments, IsPlain s) (h : parts (importedPath target) = segments) :
    resolve (directoryOf source) (relativeModule source target) = segments := by
  have hdirectory : directoryOf source = (parts source).dropLast :=
    foldl_enter_of_plain fun s hs => hsource s ((List.dropLast_subset _) hs)
  rw [hdirectory, relativeModule_eq, h]
  set directory := (parts source).dropLast
  set common := commonLength directory segments.dropLast with hcommon
  obtain ⟨hleft, hright⟩ := hcommon ▸ commonLength_le directory segments.dropLast
  rw [List.length_dropLast] at hright
  have hshort : common < segments.length := by
    have := List.length_pos_iff.mpr hne
    omega
  have hsame : directory.take common = segments.take common := by
    rw [hcommon, take_commonLength, ← hcommon, List.dropLast_eq_take, List.take_take,
      Nat.min_eq_left hright]
  have hdown : segments.drop common ≠ [] := by
    simpa using hshort
  rw [resolve_specifier hdown fun s hs => hplain s (List.mem_of_mem_drop hs),
    Nat.sub_sub_self hleft, hsame, List.take_append_drop]

/-! ### Extensions -/

section

variable {directories last stem extension : List Char} {path s e : String}

/-- The end of a text that belongs together, behind a character that does not belong to it. -/
lemma reverse_takeWhile_append {belongs : Char → Bool} {cs : List Char}
    (hcs : ∀ c ∈ cs.getLast?, belongs c = false) (hlast : ∀ c ∈ last, belongs c = true) :
    ((cs ++ last).reverse.takeWhile belongs).reverse = last := by
  rw [List.reverse_append, List.takeWhile_append_of_pos (by simpa using hlast)]
  cases h : cs.reverse with
  | nil => simp
  | cons c ds =>
    have hc : belongs c = false := hcs c (by rw [List.getLast?_eq_head?_reverse, h]; rfl)
    simp [hc]

/-- The last part of a path is what comes after the last slash. -/
lemma splitLast_append (hdirectories : ∀ c ∈ directories.getLast?, c = '/') (hlast : '/' ∉ last) :
    splitLast (directories ++ last) = (directories, last) := by
  have hend : ((directories ++ last).reverse.takeWhile (· != '/')).reverse = last :=
    reverse_takeWhile_append (by simpa using hdirectories)
      fun c hc => bne_iff_ne.mpr (ne_of_mem_of_not_mem hc hlast)
  rw [splitLast, hend, List.length_append, Nat.add_sub_cancel, List.take_left]

/-- An extension is taken off behind a stem that is not empty. -/
lemma splitExtension_append (hdirectories : ∀ c ∈ directories.getLast?, c = '/')
    (hstem : stem ≠ []) (hslash : '/' ∉ stem) (hextension : extension ≠ [])
    (halphanum : ∀ c ∈ extension, c.isAlphanum = true) :
    splitExtension (String.ofList (directories ++ (stem ++ '.' :: extension)))
      = (String.ofList (directories ++ stem), some (String.ofList extension)) := by
  have hne {c d : Char} (hc : c ∈ extension) (hd : d.isAlphanum = false) : c ≠ d := by
    rintro rfl
    exact Bool.false_ne_true (hd.symm.trans (halphanum c hc))
  have hlast : '/' ∉ stem ++ '.' :: extension := by
    simpa [hslash] using fun hmem => hne hmem (d := '/') (by decide) rfl
  have hend : ((stem ++ '.' :: extension).reverse.takeWhile (· != '.')).reverse = extension := by
    rw [List.append_cons]
    exact reverse_takeWhile_append (by simp) fun c hc => bne_iff_ne.mpr (hne hc (by decide))
  have htake : (stem ++ '.' :: extension).take
      ((stem ++ '.' :: extension).length - extension.length - 1) = stem := by
    rw [List.length_append, List.length_cons, ← Nat.add_assoc, Nat.add_right_comm,
      Nat.add_sub_cancel, Nat.add_sub_cancel, List.take_left]
  have hall : extension.all Char.isAlphanum = true := List.all_eq_true.mpr halphanum
  rw [splitExtension, String.toList_ofList, splitLast_append hdirectories hlast]
  simp only [hend, htake]
  have hlength : extension.length < (stem ++ '.' :: extension).length := by simp; omega
  rw [if_pos ⟨hlength, by simp [hstem], by simp [hextension], hall⟩]

/-- What is taken off follows a dot behind a stem that is not empty. -/
lemma exists_of_splitExtension (h : splitExtension path = (s, some e)) :
    ∃ stem, stem ≠ [] ∧ (splitLast path.toList).2 = stem ++ '.' :: e.toList := by
  unfold splitExtension at h
  split at h
  rename_i directories last hlast
  simp only at h
  split_ifs at h with hshape
  · obtain ⟨hlength, hstem, -⟩ := hshape
    obtain ⟨-, rfl⟩ : _ ∧ _ = e := by simpa using h
    have hsplit := List.takeWhile_append_dropWhile (p := fun c : Char => c != '.')
      (l := last.reverse)
    set ending := last.reverse.takeWhile fun c => c != '.'
    cases hrest : last.reverse.dropWhile fun c => c != '.' with
    | nil =>
      rw [hrest, List.append_nil] at hsplit
      simp [hsplit] at hlength
    | cons c front =>
      have hdot : c = '.' := by
        have := List.head_dropWhile_not (fun c : Char => c != '.') (by rw [hrest]; simp)
        simpa [hrest] using this
      have hwhole : last = front.reverse ++ '.' :: ending.reverse := by
        rw [hrest, hdot] at hsplit
        rw [← List.reverse_reverse last, ← hsplit]
        simp
      refine ⟨front.reverse, ?_, by rw [hlast, hwhole]; simp⟩
      intro hempty
      simp [hwhole, hempty] at hstem
  · simp at h

end

/-! ### Paths put together from names -/

section

variable {segments : List String}

lemma parts_joinWith (hne : segments ≠ []) (h : ∀ s ∈ segments, IsPlain s) :
    parts (joinWith "/" segments) = segments := by
  have hsplit : splitOn '/' (joinWith "/" segments) = segments :=
    splitOn_joinWith hne fun s hs => (h s hs).2.1
  rw [parts, hsplit, List.filter_eq_self]
  exact fun s hs => by simpa using (h s hs).1

/-- The last name of a path, and what comes before it. -/
lemma exists_joinWith_eq (hne : segments ≠ []) :
    ∃ directories : List Char, (∀ c ∈ directories.getLast?, c = '/') ∧
      (joinWith "/" segments).toList = directories ++ (segments.getLast hne).toList := by
  induction segments with
  | nil => exact absurd rfl hne
  | cons s segments ih =>
    cases segments with
    | nil => exact ⟨[], by simp, by simp [joinWith]⟩
    | cons t segments =>
      obtain ⟨directories, hlast, heq⟩ := ih (List.cons_ne_nil t segments)
      refine ⟨s.toList ++ '/' :: directories, ?_, ?_⟩
      · cases directories with
        | nil => simp
        | cons d ds => simpa [List.getLast?_append] using hlast
      · rw [joinWith, String.intercalate_cons_cons, String.toList_append, String.toList_append,
          ← joinWith, heq]
        simp

lemma importedPath_append (hne : segments ≠ []) (h : ∀ s ∈ segments, IsPlain s) :
    importedPath (joinWith "/" segments ++ ".ts") = joinWith "/" segments := by
  obtain ⟨directories, hdirectories, heq⟩ := exists_joinWith_eq hne
  obtain ⟨hempty, hslash, -⟩ := h _ (List.getLast_mem hne)
  have hpath : joinWith "/" segments ++ ".ts" = String.ofList
      (directories ++ ((segments.getLast hne).toList ++ '.' :: ['t', 's'])) := by
    rw [← String.toList_inj]
    simp [heq]
  have hsplit := splitExtension_append hdirectories (by simpa using hempty) hslash
    (List.cons_ne_nil 't' ['s']) (List.all_eq_true.mp rfl)
  rw [← hpath, ← heq, String.ofList_toList] at hsplit
  rw [importedPath, hsplit]
  rfl

lemma importedPath_of_getLast_ne (hne : segments ≠ []) (h : ∀ s ∈ segments, IsPlain s)
    (hlast : ∀ stem, stem ≠ "" → segments.getLast hne ≠ stem ++ ".ts") :
    importedPath (joinWith "/" segments) = joinWith "/" segments := by
  unfold importedPath
  split
  · rename_i hsplit
    obtain ⟨stem, hstem, heq⟩ := exists_of_splitExtension hsplit
    obtain ⟨directories, hdirectories, hpath⟩ := exists_joinWith_eq hne
    rw [hpath, splitLast_append hdirectories (h _ (List.getLast_mem hne)).2.1] at heq
    refine absurd ?_ (hlast (String.ofList stem) (by simpa using hstem))
    rw [← String.toList_inj]
    simpa using heq
  · rfl

end

/-! ### Imports -/

/-- An import begins with a step. -/
lemma exists_specifier_eq (up : ℕ) (down : List String) :
    ∃ rest, specifier up down = "./" ++ rest ∨ specifier up down = "../" ++ rest := by
  cases up with
  | zero => exact ⟨_, .inl rfl⟩
  | succ up =>
    refine ⟨String.join (List.replicate up "../") ++ joinWith "/" down, .inr ?_⟩
    rw [specifier, if_neg (by simp), List.replicate_succ, String.join_cons, String.append_assoc]

/-- **An import leads to the file that it names.** -/
theorem resolve_relativeModule (source : String) :
    (∀ target, ∃ rest, relativeModule source target = "./" ++ rest
      ∨ relativeModule source target = "../" ++ rest)
      ∧ ∀ (segments : List String) (hne : segments ≠ []), (∀ s ∈ parts source, IsPlain s) →
        (∀ s ∈ segments, IsPlain s) →
        resolve (directoryOf source) (relativeModule source (joinWith "/" segments ++ ".ts"))
            = segments
          ∧ ((∀ stem, stem ≠ "" → segments.getLast hne ≠ stem ++ ".ts") →
            resolve (directoryOf source) (relativeModule source (joinWith "/" segments))
              = segments) := by
  refine ⟨fun target => exists_specifier_eq _ _, fun segments hne hsource hplain => ⟨?_, ?_⟩⟩
  · refine resolve_of_parts_eq hsource hne hplain ?_
    rw [importedPath_append hne hplain, parts_joinWith hne hplain]
  · intro hlast
    refine resolve_of_parts_eq hsource hne hplain ?_
    rw [importedPath_of_getLast_ne hne hplain hlast, parts_joinWith hne hplain]

/-- From a file two directories deep to one beside them, whose name and whose directory have dots in
them. -/
theorem resolve_relativeModule_dotted :
    relativeModule "models/pets/cat.ts" "models/v1.ts/base.d.ts" = "../v1.ts/base.d"
      ∧ resolve (directoryOf "models/pets/cat.ts")
          (relativeModule "models/pets/cat.ts" "models/v1.ts/base.d.ts")
        = ["models", "v1.ts", "base.d"]
      ∧ resolve (directoryOf "models/pets/cat.ts")
          (relativeModule "models/pets/cat.ts" "models/v1.ts/base.d")
        = ["models", "v1.ts", "base.d"] := by
  have hlast (stem : String) (_ : stem ≠ "") : "base.d" ≠ stem ++ ".ts" := by
    intro heq
    have := congrArg (fun s : String => s.toList.getLast?) heq
    simp [List.getLast?_append] at this
  obtain ⟨hextended, hbare⟩ := (resolve_relativeModule "models/pets/cat.ts").2
    ["models", "v1.ts", "base.d"] (by simp) (by decide) (by decide)
  exact ⟨by decide, hextended, hbare hlast⟩

end OpenApiTypes.Output
