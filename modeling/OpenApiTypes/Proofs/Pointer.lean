/-
Keys and their pointers.

* `Pointer.replace_escape`: what is escaped in a segment can be put back;
  `Pointer.escape_injective`: so different keys have different segments;
* `Pointer.schema_injective`: different components have different pointers;
* `Pointer.lastName_append`: the last segment of a pointer is what comes after its last slash;
* `Pointer.unescape_ne_empty`: a segment that is not empty has a key that is not;
* `Pointer.schemaName?_ne_empty`: so no pointer leads to a component with an empty name.
-/
import OpenApiTypes.Pointer
import OpenApiTypes.Proofs.Text.Lettering
import OpenApiTypes.Proofs.Text.Pieces
import OpenApiTypes.Proofs.Text.Utf8

namespace OpenApiTypes.Pointer

open OpenApiTypes.Text

/-! ### Segments -/

/-- A character of a key inside a segment. -/
def escapeChar (c : Char) : List Char :=
  if c = '~' then ['~', '0'] else if c = '/' then ['~', '1'] else [c]

lemma toList_escape (key : String) : (escape key).toList = key.toList.flatMap escapeChar := by
  have htilde : ("~" : String) = String.singleton '~' := rfl
  have hslash : ("/" : String) = String.singleton '/' := rfl
  rw [escape, htilde, hslash, replace_singleton, replace_singleton]
  simp only [String.toList_ofList, List.flatMap_assoc]
  congr 1
  funext c
  unfold escapeChar
  split_ifs <;> simp_all

/-- A character of a segment whose slashes are slashes again. -/
def escapeTilde (c : Char) : List Char := if c = '~' then ['~', '0'] else [c]

lemma replaceFrom_slash (cs : List Char) :
    replaceFrom ['~', '1'] ['/'] 0 (cs.flatMap escapeChar) = cs.flatMap escapeTilde := by
  induction cs with
  | nil => rfl
  | cons c cs ih =>
    rw [List.flatMap_cons, List.flatMap_cons, ← ih]
    by_cases htilde : c = '~'
    · subst htilde
      simp [escapeChar, escapeTilde, replaceFrom, stripPrefix?]
    · by_cases hslash : c = '/'
      · subst hslash
        simp [escapeChar, escapeTilde, replaceFrom, stripPrefix?]
      · simp [escapeChar, escapeTilde, replaceFrom, stripPrefix?, htilde, hslash, Ne.symm htilde]

lemma replaceFrom_tilde (cs : List Char) :
    replaceFrom ['~', '0'] ['~'] 0 (cs.flatMap escapeTilde) = cs := by
  induction cs with
  | nil => rfl
  | cons c cs ih =>
    rw [List.flatMap_cons]
    by_cases htilde : c = '~'
    · subst htilde
      simp [escapeTilde, replaceFrom, stripPrefix?, ih]
    · simp [escapeTilde, replaceFrom, stripPrefix?, htilde, Ne.symm htilde, ih]

/-- A key comes back from its segment if nothing else is decoded there. -/
lemma replace_escape (key : String) : replace "~0" "~" (replace "~1" "/" (escape key)) = key := by
  have hone : ("~1" : String).toList = ['~', '1'] := rfl
  have hzero : ("~0" : String).toList = ['~', '0'] := rfl
  have hslash : ("/" : String).toList = ['/'] := rfl
  have htilde : ("~" : String).toList = ['~'] := rfl
  simp only [replace, String.toList_ofList, hone, hzero, hslash, htilde]
  rw [toList_escape, replaceFrom_slash, replaceFrom_tilde, String.ofList_toList]

/-- Different keys have different segments. -/
lemma escape_injective : Function.Injective escape :=
  Function.LeftInverse.injective (g := fun s => replace "~0" "~" (replace "~1" "/" s))
    replace_escape

/-- Different components have different pointers. -/
lemma schema_injective : Function.Injective schema :=
  (append_right_injective schemaPrefix).comp escape_injective

lemma not_mem_escape (key : String) : '/' ∉ (escape key).toList := by
  rw [toList_escape]
  intro h
  obtain ⟨c, -, hc⟩ := List.mem_flatMap.mp h
  unfold escapeChar at hc
  split_ifs at hc <;> simp_all [eq_comm]

/-- The last segment of a pointer is what comes after its last slash. -/
lemma lastName_append (folder key : String) :
    lastName (folder ++ "/" ++ escape key) = unescape (escape key) := by
  have hseparates : ∀ d ∈ (escape key).toList, (d == '/') = false := by
    intro d hd
    simp only [beq_eq_false_iff_ne]
    rintro rfl
    exact not_mem_escape key hd
  obtain ⟨first, rest, hsplit⟩ := exists_splitBy_append (c := '/') (by simp) hseparates
  have hchars : (folder ++ "/" ++ escape key).toList
      = folder.toList ++ '/' :: (escape key).toList := by simp
  have hlast : (splitOn '/' (folder ++ "/" ++ escape key)).getLast? = some (escape key) := by
    rw [splitOn, hchars, hsplit, List.map_append, List.map_singleton,
      List.getLast?_append_of_ne_nil _ (List.cons_ne_nil _ _), String.ofList_toList]
    rfl
  rw [lastName, hlast, Option.getD_some]

/-! ### Empty segments -/

lemma decodeBytes_ne_nil {bytes : List UInt8} (h : bytes ≠ []) : decodeBytes bytes ≠ [] := by
  fun_cases decodeBytes bytes with
  | case1 => exact absurd rfl h
  | case2 | case3 | case4 | case5 => exact List.cons_ne_nil _ _

lemma percentDecode_ne_empty {segment : String} (h : segment ≠ "") :
    percentDecode segment ≠ "" := by
  unfold percentDecode
  split_ifs
  · obtain ⟨c, cs, hchars⟩ := List.exists_cons_of_ne_nil (String.toList_eq_nil_iff.not.mpr h)
    have hbytes : Utf8.encode segment.toList ≠ [] := by
      rw [hchars, Utf8.encode, List.flatMap_cons]
      exact List.append_ne_nil_of_left_ne_nil String.utf8EncodeChar_ne_nil _
    have hdecoded := decodeBytes_ne_nil hbytes
    rw [Ne, String.ofList_eq_empty_iff, Utf8.decodeLossy, List.map_eq_nil_iff]
    exact Utf8.decodeFrom_ne_nil fun hnil => absurd hnil hdecoded
  · exact h

lemma unescape_ne_empty {segment : String} (h : segment ≠ "") : unescape segment ≠ "" :=
  replace_ne_empty (by decide) (replace_ne_empty (by decide) (percentDecode_ne_empty h))

/-- No pointer leads to a component with an empty name. -/
lemma schemaName?_ne_empty {pointer name : String} (h : schemaName? pointer = some name) :
    name ≠ "" := by
  unfold schemaName? at h
  split at h
  · split_ifs at h
    obtain rfl := Option.some.inj h
    exact unescape_ne_empty (String.ofList_eq_empty_iff.not.mpr (List.cons_ne_nil _ _))
  · simp at h

end OpenApiTypes.Pointer
