/-
Templates that put a text before and after the name.

* `Template.IsPlain`: a template that is a text, the name and another text;
* `Template.IsPlain.nameFor_eq`: what such a template gives, up to a line end that is left out;
* `Template.IsPlain.suffix_nameFor`: what one text ends in and its name does not have, every
  text ends in;
* `Template.IsPlain.injective`: it gives different texts for different names.
-/
import OpenApiTypes.Naming.Template
import Mathlib.Data.List.Chain

namespace OpenApiTypes.Template

open OpenApiTypes.Text

variable {cs : List Char} {template name text : String}

/-! ### Texts without tags -/

/-- Whether two characters begin a tag. -/
def opensTag (c d : Char) : Bool := c == '\x7b' && (TagKind.ofOpening? d).isSome

/-- No two characters in a row begin a tag. -/
def TagFree (cs : List Char) : Prop := cs.IsChain fun c d => opensTag c d = false

instance (cs : List Char) : Decidable (TagFree cs) :=
  inferInstanceAs (Decidable (cs.IsChain fun c d => opensTag c d = false))

/-- Characters that begin no tag are read as text. -/
lemma rawParts?_text {read : List Char} {c d : Char} (h : opensTag c d = false) :
    rawParts? (.text read) (c :: d :: cs) = rawParts? (.text (c :: read)) (d :: cs) := by
  rw [rawParts?]
  split
  · rename_i kind hkind
    have hc : ¬ (c == '\x7b') = true := by
      simpa [opensTag, hkind] using h
    rw [if_neg hc]
  · rfl

lemma rawParts?_tagFree (read : List Char) (h : TagFree cs) :
    rawParts? (.text read) cs = some [.text (read.reverse ++ cs)] := by
  induction cs generalizing read with
  | nil => simp [rawParts?]
  | cons c cs ih =>
    cases cs with
    | nil => simp [rawParts?]
    | cons d cs =>
      obtain ⟨hcd, hrest⟩ := List.isChain_cons_cons.mp h
      rw [rawParts?_text hcd, ih _ hrest]
      simp

/-- A text without tags is read up to the tag for the name. -/
lemma rawParts?_tagFree_append (ds read : List Char) (h : TagFree (cs ++ ['\x7b'])) :
    rawParts? (.text read) (cs ++ "\x7b\x7bname\x7d\x7d".toList ++ ds)
      = (rawParts? (.text []) ds).map fun parts =>
        .text (read.reverse ++ cs) :: .tag .output ['n', 'a', 'm', 'e'] :: parts := by
  induction cs generalizing read with
  | nil => cases h : rawParts? (.text []) ds <;> simp [rawParts?, TagKind.ofOpening?, h,
      TagKind.closing, TagKind.hasStrings]
  | cons c cs ih =>
    cases cs with
    | nil =>
      obtain ⟨hcd, -⟩ := List.isChain_cons_cons.mp h
      have := ih (c :: read) (by simp [TagFree])
      simp only [List.nil_append, List.cons_append] at this ⊢
      rw [show "\x7b\x7bname\x7d\x7d".toList = '\x7b' :: "\x7bname\x7d\x7d".toList from rfl,
        List.cons_append] at this ⊢
      rw [rawParts?_text hcd, this]
      simp
    | cons d cs =>
      obtain ⟨hcd, hrest⟩ := List.isChain_cons_cons.mp h
      have := ih (c :: read) hrest
      simp only [List.cons_append] at this ⊢
      rw [rawParts?_text hcd, this]
      simp

/-! ### Plain templates -/

/-- A template that is a text, the name and another text. -/
def IsPlain (template : String) : Prop :=
  ∃ before after : List Char, TagFree (before ++ ['\x7b']) ∧ TagFree after
    ∧ template.toList = before ++ "\x7b\x7bname\x7d\x7d".toList ++ after

/-- The line end that is left out of a template comes after the name. -/
lemma withoutFinalLineEnd_append (cs after : List Char) :
    ∃ rest, rest <+: after
      ∧ withoutFinalLineEnd (cs ++ '\x7d' :: after) = cs ++ '\x7d' :: rest := by
  have hreverse : (cs ++ '\x7d' :: after).reverse = after.reverse ++ '\x7d' :: cs.reverse := by
    simp
  -- The template is looked at from its end, so `after` is taken apart from there.
  suffices h : ∃ rest, rest <:+ after.reverse
      ∧ withoutFinalLineEnd (cs ++ '\x7d' :: after) = cs ++ '\x7d' :: rest.reverse by
    obtain ⟨rest, hrest, heq⟩ := h
    exact ⟨rest.reverse, by simpa using List.reverse_prefix.mpr hrest, heq⟩
  unfold withoutFinalLineEnd
  rw [hreverse]
  generalize after.reverse = reversed
  cases reversed with
  | nil => exact ⟨[], by simp, by simp⟩
  | cons c l =>
    by_cases hfeed : c = '\n'
    · subst hfeed
      cases l with
      | nil => exact ⟨[], by simp, by simp⟩
      | cons d l =>
        by_cases hreturn : d = '\r'
        · subst hreturn
          exact ⟨l, (List.suffix_cons _ _).trans (List.suffix_cons _ _), by simp⟩
        · exact ⟨d :: l, List.suffix_cons _ _, by simp [hreturn]⟩
    · by_cases hreturn : c = '\r'
      · subst hreturn
        exact ⟨l, List.suffix_cons _ _, by simp⟩
      · exact ⟨c :: l, List.suffix_refl _, by simp [hfeed, hreturn]⟩

/-- A plain template puts its texts before and after the name. -/
lemma IsPlain.nameFor_eq (h : IsPlain template) :
    ∃ before after : String, ∀ {name text}, nameFor template name = .ok text →
      text = before ++ name ++ after := by
  obtain ⟨before, after, hbefore, hafter, htemplate⟩ := h
  obtain ⟨rest, hrest, hend⟩ := withoutFinalLineEnd_append
    (before ++ ['\x7b', '\x7b', 'n', 'a', 'm', 'e', '\x7d']) after
  refine ⟨.ofList before, .ofList rest, fun {name text} htext => ?_⟩
  have hparts : rawParts? (.text []) (withoutFinalLineEnd template.toList)
      = some [.text before, .tag .output ['n', 'a', 'm', 'e'], .text rest] := by
    have hsplit : template.toList
        = before ++ ['\x7b', '\x7b', 'n', 'a', 'm', 'e', '\x7d'] ++ '\x7d' :: after := by
      simp [htemplate]
    have hraw := rawParts?_tagFree_append rest [] hbefore
    have hfree : TagFree rest := List.IsChain.prefix hafter hrest
    rw [rawParts?_tagFree [] hfree] at hraw
    rw [hsplit, hend]
    simpa using hraw
  have hpieces : pieces? template = some [.text (.ofList before),
      .output [⟨.variable "name", [], []⟩], .text (.ofList rest)] := by
    rw [pieces?, hparts]
    rfl
  have hrender : Engine.render? template name = some (.ofList before ++ name ++ .ofList rest) := by
    simp [Engine.render?, render?, hpieces, renderFrom?, contentOf?, Operand.content?, Atom.content,
      Content.toText, String.append_assoc]
  rw [nameFor, hrender] at htext
  dsimp only at htext
  split at htext
  · exact (Except.ok.inj htext).symm
  · simp at htext

/-- If the text for one name ends in a character that the name does not have, every text does. -/
lemma IsPlain.suffix_nameFor (h : IsPlain template) {sample other : String} {c : Char}
    (hother : nameFor template sample = .ok other) (hc : [c] <:+ other.toList)
    (hsample : sample ≠ "") (hfree : c ∉ sample.toList) (hname : nameFor template name = .ok text) :
    [c] <:+ text.toList := by
  obtain ⟨before, after, heq⟩ := h.nameFor_eq
  have hend : ∀ ds : List Char, ds ≠ [] → ds <:+ other.toList → [c] <:+ ds := fun ds hds hsuffix =>
    List.suffix_of_suffix_length_le hc hsuffix (List.length_pos_iff.mpr hds)
  rw [heq hname, String.toList_append]
  by_cases hafter : after = ""
  · have hlast : sample.toList <:+ other.toList := by simp [heq hother, hafter]
    exact absurd ((hend _ (by simpa using hsample) hlast).subset List.mem_cons_self) hfree
  · have hlast : after.toList <:+ other.toList := by
      rw [heq hother, String.toList_append]
      exact List.suffix_append _ _
    exact (hend _ (by simpa using hafter) hlast).trans (List.suffix_append _ _)

/-- Different names give different texts. -/
lemma IsPlain.injective (h : IsPlain template) {name other text : String}
    (hname : nameFor template name = .ok text) (hother : nameFor template other = .ok text) :
    name = other := by
  obtain ⟨before, after, heq⟩ := h.nameFor_eq
  have := (heq hname).symm.trans (heq hother)
  simpa using this

end OpenApiTypes.Template
