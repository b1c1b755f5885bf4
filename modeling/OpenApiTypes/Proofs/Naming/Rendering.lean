/-
What the text of a template owes to the name.

* `Template.Content.Alike`: contents that are the same, or texts that are not empty;
* `Template.alike_contentOf?`: a value stands for alike contents whatever the name, unless the name
  is empty;
* `Template.printed?`: the values that a template prints, `Template.render?_eq`: its text is theirs;
* `Template.printed?_congr`: these values do not depend on the name;
* `Template.ShowsName`: the name as it is stands among them;
* `Template.isBasic`: templates of texts, of the name, of conditions and of comments;
  `Template.RendersBasic`: an engine renders these as `Template.render?` does;
* `Template.nameFor_ne_malformed`: a basic template that can be rendered for one name can be for
  every other one;
* `Template.nameFor_ok_iff`: it gives a name for every other one exactly if it shows the name.
-/
import OpenApiTypes.Naming.Template
import OpenApiTypes.Proofs.Text.Lettering
import OpenApiTypes.Proofs.Text.Pieces
import Mathlib.Data.List.Forall2

namespace OpenApiTypes.Template

open OpenApiTypes.Text

/-! ### Related results -/

section

variable {α β : Type} {r : β → β → Prop}

lemma rel_bind {x y : Option α} {f g : α → Option β} {r' : α → α → Prop} (h : Option.Rel r' x y)
    (hfg : ∀ a b, r' a b → Option.Rel r (f a) (g b)) : Option.Rel r (x >>= f) (y >>= g) := by
  cases h with
  | some h => exact hfg _ _ h
  | none => exact .none

lemma isSome_eq_of_rel {x y : Option β} (h : Option.Rel r x y) : x.isSome = y.isSome := by
  cases h with
  | some => rfl
  | none => rfl

lemma rel_mapM {f g : α → Option β} {l : List α} (h : ∀ a ∈ l, Option.Rel r (f a) (g a)) :
    Option.Rel (List.Forall₂ r) (l.mapM f) (l.mapM g) := by
  induction l with
  | nil => exact .some .nil
  | cons a l ih =>
    rw [List.mapM_cons, List.mapM_cons]
    have htail := ih fun b hb => h b (List.mem_cons_of_mem _ hb)
    exact rel_bind (h a List.mem_cons_self) fun _ _ hhead =>
      rel_bind htail fun _ _ hrest => .some (.cons hhead hrest)

lemma exists_mem_of_mapM {f : α → Option β} {l : List α} {l' : List β} (h : l.mapM f = some l')
    {a : α} (ha : a ∈ l) : ∃ b ∈ l', f a = some b := by
  induction l generalizing l' with
  | nil => simp at ha
  | cons c l ih =>
    rw [List.mapM_cons] at h
    obtain ⟨b, hb, h⟩ := Option.bind_eq_some_iff.mp h
    obtain ⟨bs, hbs, h⟩ := Option.bind_eq_some_iff.mp h
    obtain rfl := Option.some.inj h
    rcases List.mem_cons.mp ha with rfl | ha
    · exact ⟨b, List.mem_cons_self, hb⟩
    · obtain ⟨b', hb', hfa⟩ := ih hbs ha
      exact ⟨b', List.mem_cons_of_mem _ hb', hfa⟩

lemma rel_foldlM {f : β → α → Option β} (hf : ∀ a b b', r b b' → Option.Rel r (f b a) (f b' a))
    (l : List α) {b b' : β} (h : r b b') : Option.Rel r (l.foldlM f b) (l.foldlM f b') := by
  induction l generalizing b b' with
  | nil => exact .some h
  | cons a l ih =>
    rw [List.foldlM_cons, List.foldlM_cons]
    exact rel_bind (hf a b b' h) fun _ _ => ih

end

/-! ### Contents -/

/-- Contents that are the same, or texts that are not empty. -/
inductive Content.Alike : Content → Content → Prop where
  | same (c : Content) : Alike c c
  | texts {s t : String} (hs : s ≠ "") (ht : t ≠ "") : Alike (.text s) (.text t)

namespace Content.Alike

variable {c d : Content}

lemma holds (h : c.Alike d) : c.holds = d.holds := by
  cases h with
  | same => rfl
  | texts hs ht =>
    rw [Content.holds, Content.holds, String.isEmpty_eq_false_iff.mpr hs,
      String.isEmpty_eq_false_iff.mpr ht]

lemma attribute? (h : c.Alike d) : Option.Rel Alike c.attribute? d.attribute? := by
  cases h with
  | same c => cases c.attribute? with
    | none => exact .none
    | some c => exact .some (.same c)
  | texts => exact .some (.same _)

lemma filtered? (h : c.Alike d) (filter : String) :
    Option.Rel Alike ((Template.filtered? filter c.toText).map .text)
      ((Template.filtered? filter d.toText).map .text) := by
  unfold Template.filtered?
  split_ifs
  · cases h with
    | same c => exact .some (.same _)
    | texts hs ht => exact .some (.texts (uppercase_ne_empty hs) (uppercase_ne_empty ht))
  · cases h with
    | same c => exact .some (.same _)
    | texts hs ht => exact .some (.texts (lowercase_ne_empty hs) (lowercase_ne_empty ht))
  · exact .none

/-- Joined texts are alike if their parts are. -/
lemma join {cs ds : List Content} (h : List.Forall₂ Alike cs ds) :
    Alike (.text (String.join (cs.map toText))) (.text (String.join (ds.map toText))) := by
  induction h with
  | nil => exact .same _
  | @cons c d cs ds hhead _ ih =>
    simp only [List.map_cons, String.join_cons]
    cases hhead with
    | same c =>
      generalize String.join (cs.map toText) = s, String.join (ds.map toText) = t at ih
      cases ih with
      | same => exact .same _
      | texts hs ht => exact .texts (by simp [hs]) (by simp [ht])
    | texts hs ht => exact .texts (by simp [toText, hs]) (by simp [toText, ht])

end Content.Alike

section

variable {name other : String} (hname : name ≠ "") (hother : other ≠ "")

include hname hother

lemma alike_content? (o : Operand) :
    Option.Rel Content.Alike (o.content? name) (o.content? other) := by
  have hatom : (o.atom.content name).Alike (o.atom.content other) := by
    match o.atom with
    | .variable v =>
      simp only [Atom.content]
      split_ifs
      · exact .texts hname hother
      · exact .same _
    | .constant c => exact .same c
  have hattributes := rel_foldlM (f := fun c (_ : String) => Content.attribute? c)
    (fun _ _ _ h => h.attribute?) o.attributes hatom
  exact rel_bind hattributes fun _ _ h => rel_foldlM (fun filter _ _ h => h.filtered? filter) _ h

/-- A value stands for alike contents whatever the name. -/
lemma alike_contentOf? (v : Value) :
    Option.Rel Content.Alike (contentOf? name v) (contentOf? other v) := by
  refine rel_bind (rel_mapM fun o _ => alike_content? hname hother o) fun cs ds h => ?_
  cases h with
  | nil => exact .some (.same _)
  | cons hhead htail =>
    cases htail with
    | nil => exact .some hhead
    | cons hsecond htail => exact .some (.join (.cons hhead (.cons hsecond htail)))

end

/-! ### Printed values -/

/-- A text as a value. -/
def Value.ofText (content : String) : Value := [⟨.constant (.text content), [], []⟩]

/-- The values that pieces print. Open conditions are known as they are in `renderFrom?`. -/
def printed? (name : String) (conditions : List (Bool × Bool)) :
    List Piece → Option (List Value)
  | [] => if conditions.isEmpty then some [] else none
  | piece :: rest =>
    let active := conditions.all Prod.fst
    match piece, conditions with
    | .text content, _ => do
      some ((if active then [.ofText content] else []) ++ (← printed? name conditions rest))
    | .output value, _ => do
      some ((if active then [value] else []) ++ (← printed? name conditions rest))
    | .condition value, _ => do
      let holds ← if active then (contentOf? name value).map Content.holds else some false
      printed? name ((holds, false) :: conditions) rest
    | .otherwise, (holds, false) :: outer => printed? name ((!holds, true) :: outer) rest
    | .endCondition, _ :: outer => printed? name outer rest
    | _, _ => none

/-- The text of values. -/
def textOf? (name : String) (values : List Value) : Option String := do
  some (String.join (← values.mapM fun v => (contentOf? name v).map Content.toText))

lemma textOf?_cons (name : String) (v : Value) (values : List Value) :
    textOf? name (v :: values) = ((contentOf? name v).map Content.toText).bind fun text =>
      (textOf? name values).bind fun rest => some (text ++ rest) := by
  simp only [textOf?, List.mapM_cons]
  cases (contentOf? name v).map Content.toText with
  | none => rfl
  | some text =>
    cases values.mapM fun v => (contentOf? name v).map Content.toText with
    | none => rfl
    | some texts => exact congrArg some String.join_cons

/-- Pieces have the text of the values that they print. -/
lemma renderFrom?_eq (name : String) (conditions : List (Bool × Bool)) (pieces : List Piece) :
    renderFrom? name conditions pieces = (printed? name conditions pieces).bind (textOf? name) := by
  induction pieces generalizing conditions with
  | nil =>
    rw [renderFrom?, printed?]
    split_ifs <;> rfl
  | cons piece rest ih =>
    match piece with
    | .text content =>
      rw [renderFrom?, printed?, ih]
      cases printed? name conditions rest with
      | none => rfl
      | some values =>
        split_ifs
        · exact (textOf?_cons name (.ofText content) values).symm
        · cases h : textOf? name values <;> simp [h]
    | .output value =>
      rw [renderFrom?, printed?, ih]
      cases printed? name conditions rest with
      | none => split_ifs <;> cases (contentOf? name value) <;> rfl
      | some values =>
        split_ifs
        · exact (textOf?_cons name value values).symm
        · cases h : textOf? name values <;> simp [h]
    | .condition value =>
      rw [renderFrom?, printed?]
      split_ifs
      · cases contentOf? name value with
        | none => rfl
        | some c => exact ih _
      · exact ih _
    | .otherwise =>
      match conditions with
      | [] => rfl
      | (holds, true) :: outer => rfl
      | (holds, false) :: outer => exact ih _
    | .endCondition =>
      cases conditions with
      | nil => rfl
      | cons condition outer => exact ih _

/-- The values that a template prints for a name. -/
def values? (template name : String) : Option (List Value) := do
  printed? name [] (← pieces? template)

lemma render?_eq (template name : String) :
    render? template name = (values? template name).bind (textOf? name) := by
  rw [render?, values?]
  cases pieces? template with
  | none => rfl
  | some pieces => exact renderFrom?_eq name [] pieces

/-- Which values pieces print does not depend on the name. -/
lemma printed?_congr {name other : String} (hname : name ≠ "") (hother : other ≠ "")
    (conditions : List (Bool × Bool)) (pieces : List Piece) :
    printed? name conditions pieces = printed? other conditions pieces := by
  induction pieces generalizing conditions with
  | nil => rfl
  | cons piece rest ih =>
    match piece with
    | .text content | .output value => rw [printed?, printed?, ih]
    | .condition value =>
      have hholds : (contentOf? name value).map Content.holds
          = (contentOf? other value).map Content.holds := by
        have halike := alike_contentOf? hname hother value
        generalize contentOf? name value = c, contentOf? other value = d at halike
        cases halike with
        | some h => exact congrArg some h.holds
        | none => rfl
      simp only [printed?, hholds, ih]
    | .otherwise =>
      match conditions with
      | [] => rfl
      | (holds, true) :: outer => rfl
      | (holds, false) :: outer => exact ih _
    | .endCondition =>
      cases conditions with
      | nil => rfl
      | cons condition outer => exact ih _

lemma values?_congr {name other : String} (hname : name ≠ "") (hother : other ≠ "")
    (template : String) : values? template name = values? template other := by
  rw [values?, values?]
  cases pieces? template with
  | none => rfl
  | some pieces => exact printed?_congr hname hother [] pieces

/-! ### Templates that show the name -/

/-- The name as it is. -/
def nameItself : Operand := ⟨.variable "name", [], []⟩

/-- One of the values that a template prints for a name is joined of the name as it is, and maybe
others. -/
def ShowsName (template name : String) : Prop :=
  ∃ v ∈ (values? template name).getD [], nameItself ∈ v

instance (template name : String) : Decidable (ShowsName template name) :=
  inferInstanceAs (Decidable (∃ v ∈ (values? template name).getD [], nameItself ∈ v))

section

variable {name text : String}

lemma infix_join {texts : List String} (h : text ∈ texts) :
    text.toList <:+: (String.join texts).toList := by
  obtain ⟨before, after, rfl⟩ := List.append_of_mem h
  rw [String.toList_join, List.flatMap_append, List.flatMap_cons]
  exact List.infix_append' _ _ _

lemma infix_contentOf? {v : Value} (hv : nameItself ∈ v) {c : Content}
    (h : contentOf? name v = some c) : name.toList <:+: c.toText.toList := by
  obtain ⟨contents, hcontents, hc⟩ := Option.bind_eq_some_iff.mp h
  obtain ⟨d, hd, hname⟩ := exists_mem_of_mapM hcontents hv
  obtain rfl : Content.text name = d := Option.some.inj hname
  split at hc
  · obtain rfl := Option.some.inj hc
    obtain rfl := List.mem_singleton.mp hd
    exact List.infix_rfl
  · obtain rfl := Option.some.inj hc
    exact infix_join (List.mem_map.mpr ⟨_, hd, rfl⟩)

/-- A text that shows the name contains it. -/
lemma infix_textOf? {values : List Value} {v : Value} (hmem : v ∈ values) (hv : nameItself ∈ v)
    (h : textOf? name values = some text) : name.toList <:+: text.toList := by
  obtain ⟨texts, htexts, h⟩ := Option.bind_eq_some_iff.mp h
  obtain rfl := Option.some.inj h
  obtain ⟨own, hown, hv'⟩ := exists_mem_of_mapM htexts hmem
  obtain ⟨c, hc, rfl⟩ := Option.map_eq_some_iff.mp hv'
  exact (infix_contentOf? hv hc).trans (infix_join hown)

end

/-! ### Templates that do not show the name -/

/-- A name of letters that no filter leaves as they are. -/
def titleName (n : Nat) : String := String.ofList (List.replicate n titleLetter)

lemma titleName_ne_empty {n : Nat} (hn : 0 < n) : titleName n ≠ "" := by
  refine String.ofList_eq_empty_iff.not.mpr fun hnil => ?_
  obtain rfl : n = 0 := by simpa using hnil
  exact Nat.lt_irrefl 0 hn

lemma titleName_subset (n : Nat) : (titleName n).toList ⊆ titleLetter :: casedLetters := by
  intro c hc
  rw [titleName, String.toList_ofList] at hc
  obtain rfl := List.eq_of_mem_replicate hc
  exact List.mem_cons_self

lemma subset_of_filtered? {filter s t : String} (hs : s.toList ⊆ titleLetter :: casedLetters)
    (h : filtered? filter s = some t) : t.toList ⊆ casedLetters := by
  rw [filtered?] at h
  split_ifs at h
  · obtain rfl := Option.some.inj h
    exact uppercase_subset_casedLetters hs
  · obtain rfl := Option.some.inj h
    exact lowercase_subset_casedLetters hs

/-- The filters of an operand. -/
lemma subset_of_filters {filters : List String} {c d : Content}
    (hc : c.toText.toList ⊆ casedLetters)
    (h : filters.foldlM (fun c filter => (filtered? filter c.toText).map .text) c = some d) :
    d.toText.toList ⊆ casedLetters := by
  induction filters generalizing c with
  | nil =>
    obtain rfl := Option.some.inj h
    exact hc
  | cons filter filters ih =>
    rw [List.foldlM_cons] at h
    obtain ⟨next, hnext, h⟩ := Option.bind_eq_some_iff.mp h
    obtain ⟨t, ht, rfl⟩ := Option.map_eq_some_iff.mp hnext
    exact ih (subset_of_filtered? (List.subset_cons_of_subset _ hc) ht) h

/-- Content that holds no more of the letters than other content is long. -/
def Content.Fits (c d : Content) : Prop :=
  c.toText.toList.count titleLetter ≤ d.toText.toList.length

lemma Content.Fits.refl (c : Content) : c.Fits c := List.count_le_length

lemma Content.Fits.join {cs ds : List Content} (h : List.Forall₂ Content.Fits cs ds) :
    Content.Fits (.text (String.join (cs.map Content.toText)))
      (.text (String.join (ds.map Content.toText))) := by
  induction h with
  | nil => exact .refl _
  | cons hhead _ ih =>
    simp only [Content.Fits, Content.toText, List.map_cons, String.join_cons, String.toList_append,
      List.count_append, List.length_append] at *
    exact Nat.add_le_add hhead ih

section

variable {n : Nat} {other : String}

/-- An operand other than the name as it is, for the name of such letters and for another one. -/
lemma fits_of_content? {o : Operand} (ho : o ≠ nameItself) {c d : Content}
    (hc : o.content? (titleName n) = some c) (hd : o.content? other = some d) : c.Fits d := by
  have hsame : o.content? (titleName n) = o.content? other → c.Fits d := fun heq => by
    obtain rfl : c = d := Option.some.inj (hc.symm.trans (heq.trans hd))
    exact .refl c
  obtain ⟨atom, attributes, filters⟩ := o
  match atom, attributes, filters with
  | .constant content, _, _ => exact hsame rfl
  | .variable v, a :: attributes, _ =>
    refine hsame ?_
    by_cases hv : v = "name" <;> simp [Operand.content?, Atom.content, hv, Content.attribute?]
  | .variable v, [], filters =>
    by_cases hv : v = "name"
    · subst hv
      cases filters with
      | nil => exact absurd rfl ho
      | cons filter filters =>
        have hfilters : (filtered? filter (titleName n)).map Content.text >>= (fun first =>
            filters.foldlM (fun c filter => (filtered? filter c.toText).map .text) first)
              = some c := hc
        obtain ⟨first, hfirst, hlast⟩ := Option.bind_eq_some_iff.mp hfilters
        obtain ⟨t, ht, rfl⟩ := Option.map_eq_some_iff.mp hfirst
        have hcased : c.toText.toList ⊆ casedLetters :=
          subset_of_filters (subset_of_filtered? (titleName_subset n) ht) hlast
        have hcount : c.toText.toList.count titleLetter = 0 :=
          List.count_eq_zero.mpr fun h => titleLetter_notMem (hcased h)
        rw [Content.Fits, hcount]
        exact Nat.zero_le _
    · refine hsame ?_
      simp [Operand.content?, Atom.content, hv]

variable (hn : 0 < n) (hother : other ≠ "")

include hn hother

lemma fits_contentOf? {v : Value} (hv : nameItself ∉ v) :
    Option.Rel Content.Fits (contentOf? (titleName n) v) (contentOf? other v) := by
  have hoperand : ∀ o ∈ v,
      Option.Rel Content.Fits (o.content? (titleName n)) (o.content? other) := by
    intro o ho
    have halike := alike_content? (titleName_ne_empty hn) hother o
    have hne : o ≠ nameItself := fun heq => hv (heq ▸ ho)
    generalize hc : o.content? (titleName n) = c, hd : o.content? other = d at halike ⊢
    cases halike with
    | none => exact .none
    | some => exact .some (fits_of_content? hne hc hd)
  refine rel_bind (rel_mapM hoperand) fun cs ds h => ?_
  cases h with
  | nil => exact .some (.refl _)
  | cons hhead htail =>
    cases htail with
    | nil => exact .some hhead
    | cons hsecond htail => exact .some (.join (.cons hhead (.cons hsecond htail)))

/-- If none of the values shows the name, their text holds no more of the letters than it is long
for any other name. -/
lemma count_le_of_textOf? {values : List Value} (hvalues : ∀ v ∈ values, nameItself ∉ v)
    {s t : String} (hs : textOf? (titleName n) values = some s)
    (ht : textOf? other values = some t) : s.toList.count titleLetter ≤ t.toList.length := by
  induction values generalizing s t with
  | nil =>
    obtain rfl := Option.some.inj hs
    exact Nat.zero_le _
  | cons v values ih =>
    obtain ⟨hv, hvalues⟩ := List.forall_mem_cons.mp hvalues
    rw [textOf?_cons] at hs ht
    obtain ⟨s', hs', hs⟩ := Option.bind_eq_some_iff.mp hs
    obtain ⟨s'', hs'', hs⟩ := Option.bind_eq_some_iff.mp hs
    obtain ⟨t', ht', ht⟩ := Option.bind_eq_some_iff.mp ht
    obtain ⟨t'', ht'', ht⟩ := Option.bind_eq_some_iff.mp ht
    obtain ⟨c, hc, rfl⟩ := Option.map_eq_some_iff.mp hs'
    obtain ⟨d, hd, rfl⟩ := Option.map_eq_some_iff.mp ht'
    obtain rfl := Option.some.inj hs
    obtain rfl := Option.some.inj ht
    have hhead := fits_contentOf? hn hother hv
    rw [hc, hd] at hhead
    cases hhead with
    | some hhead =>
      rw [String.toList_append, String.toList_append, List.count_append, List.length_append]
      exact Nat.add_le_add hhead (ih hvalues hs'' ht'')

end

/-! ### Engines -/

/-- Whether an atom is the name or a text. -/
def Atom.isBasic : Atom → Bool
  | .variable v => v == "name"
  | .constant (.text _) => true
  | .constant _ => false

/-- Whether an operand is the name or a text, as it is, in capitals or in small letters. -/
def Operand.isBasic (o : Operand) : Bool :=
  o.atom.isBasic && o.attributes.isEmpty && o.filters.all fun f => f == "upper" || f == "lower"

/-- Whether a piece is made of such operands. -/
def Piece.isBasic : Piece → Bool
  | .output value | .condition value => value.all Operand.isBasic
  | _ => true

/-- How deep conditions nest in pieces inside of so many others. -/
def nesting : Nat → List Piece → Nat
  | depth, [] => depth
  | depth, .condition _ :: rest => nesting (depth + 1) rest
  | depth, .endCondition :: rest => max depth (nesting (depth - 1) rest)
  | depth, _ :: rest => nesting depth rest

/-- Whether a template is made of such pieces, and its conditions do not nest deeper than any engine
should bear. -/
def isBasic (template : String) : Bool :=
  (pieces? template).any fun pieces => pieces.all Piece.isBasic && nesting 0 pieces ≤ 100

/-- Basic templates have the texts that `render?` gives, whatever else an engine can render. -/
def RendersBasic [Engine] : Prop :=
  ∀ template, isBasic template = true → ∀ name,
    Engine.render? template name = render? template name

lemma rendersBasic : RendersBasic := fun _ _ _ => rfl

/-- A basic operand stands for something whatever the name. -/
lemma exists_content? {o : Operand} (h : o.isBasic = true) (name : String) :
    ∃ c, o.content? name = some c := by
  obtain ⟨atom, attributes, filters⟩ := o
  simp only [Operand.isBasic, Bool.and_eq_true, List.isEmpty_iff, List.all_eq_true,
    Bool.or_eq_true, beq_iff_eq] at h
  obtain ⟨⟨-, rfl⟩, hfilters⟩ := h
  show ∃ d, filters.foldlM (fun c filter => (filtered? filter c.toText).map .text)
    (atom.content name) = some d
  generalize atom.content name = c
  induction filters generalizing c with
  | nil => exact ⟨c, rfl⟩
  | cons filter filters ih =>
    obtain ⟨rfl | rfl, hrest⟩ := List.forall_mem_cons.mp hfilters
    · exact ih hrest (.text (uppercase c.toText))
    · exact ih hrest (.text (lowercase c.toText))

/-- So does a basic value. -/
lemma exists_contentOf? {v : Value} (h : v.all Operand.isBasic = true) (name : String) :
    ∃ c, contentOf? name v = some c := by
  have hcontents : ∃ contents, v.mapM (Operand.content? name) = some contents := by
    induction v with
    | nil => exact ⟨[], rfl⟩
    | cons o v ih =>
      obtain ⟨ho, hv⟩ := List.forall_mem_cons.mp (List.all_eq_true.mp h)
      obtain ⟨c, hc⟩ := exists_content? ho name
      obtain ⟨cs, hcs⟩ := ih (List.all_eq_true.mpr hv)
      exact ⟨c :: cs, by simp [List.mapM_cons, hc, hcs]⟩
  obtain ⟨contents, hcontents⟩ := hcontents
  simp only [contentOf?, hcontents, bind, Option.bind]
  split <;> exact ⟨_, rfl⟩

/-- Whether basic pieces have a text depends neither on the name nor on which conditions hold. -/
lemma rel_renderFrom? {pieces : List Piece} (h : ∀ piece ∈ pieces, piece.isBasic = true)
    (name other : String) {conditions conditions' : List (Bool × Bool)}
    (hbranches : conditions.map Prod.snd = conditions'.map Prod.snd) :
    Option.Rel (fun _ _ => True) (renderFrom? name conditions pieces)
      (renderFrom? other conditions' pieces) := by
  induction pieces generalizing conditions conditions' with
  | nil =>
    have hempty : conditions.isEmpty = conditions'.isEmpty := by
      rw [← List.isEmpty_map, hbranches, List.isEmpty_map]
    rw [renderFrom?, renderFrom?, hempty]
    split
    · exact .some trivial
    · exact .none
  | cons piece rest ih =>
    obtain ⟨hpiece, hrest⟩ := List.forall_mem_cons.mp h
    have hsame := @ih hrest
    match piece with
    | .text content => exact rel_bind (hsame hbranches) fun _ _ _ => .some trivial
    | .output value =>
      obtain ⟨c, hc⟩ := exists_contentOf? hpiece name
      obtain ⟨d, hd⟩ := exists_contentOf? hpiece other
      have hprinted : ∀ s t : String, Option.Rel (fun _ _ => True)
          (renderFrom? name conditions rest >>= fun after => some (s ++ after))
          (renderFrom? other conditions' rest >>= fun after => some (t ++ after)) :=
        fun s t => rel_bind (hsame hbranches) fun _ _ _ => .some trivial
      simp only [renderFrom?, hc, hd]
      split <;> split <;> exact hprinted _ _
    | .condition value =>
      obtain ⟨c, hc⟩ := exists_contentOf? hpiece name
      obtain ⟨d, hd⟩ := exists_contentOf? hpiece other
      simp only [renderFrom?, hc, hd]
      split <;> split <;> exact hsame (congrArg (List.cons false) hbranches)
    | .otherwise =>
      match conditions, conditions', hbranches with
      | [], [], _ => exact .none
      | (_, true) :: _, (_, true) :: _, _ => exact .none
      | (_, false) :: _, (_, false) :: _, hbranches =>
        exact hsame (congrArg (List.cons true) (List.cons.inj hbranches).2)
    | .endCondition =>
      match conditions, conditions', hbranches with
      | [], [], _ => exact .none
      | _ :: _, _ :: _, hbranches => exact hsame (List.cons.inj hbranches).2

/-- Whether a basic template can be rendered does not depend on the name. -/
lemma isSome_render? {template : String} (h : isBasic template = true) (name other : String) :
    (render? template name).isSome = (render? template other).isSome := by
  obtain ⟨pieces, hpieces, hbasic⟩ := (Option.any_eq_true _ _).mp h
  obtain ⟨hbasic, -⟩ := Bool.and_eq_true_iff.mp hbasic
  rw [render?, render?, hpieces]
  exact isSome_eq_of_rel (rel_renderFrom? (List.all_eq_true.mp hbasic) name other rfl)

/-! ### Names of templates -/

section

variable [Engine] {template name sample text : String}

lemma nameFor_eq_ok_iff : nameFor template name = .ok text ↔
    Engine.render? template name = some text ∧ name.toList <:+: text.toList := by
  rw [nameFor]
  cases Engine.render? template name with
  | none => simp
  | some t =>
    by_cases hoccurs : occursIn name.toList t.toList = true
    · simp only [if_pos hoccurs, Except.ok.injEq, Option.some.injEq]
      exact ⟨fun h => ⟨h, h ▸ occursIn_iff.mp hoccurs⟩, fun h => h.1⟩
    · simp only [if_neg hoccurs, reduceCtorEq, Option.some.injEq, false_iff, not_and]
      exact fun h hinfix => hoccurs (occursIn_iff.mpr (h ▸ hinfix))

lemma nameFor_eq_malformed_iff :
    nameFor template name = .error .malformed ↔ Engine.render? template name = none := by
  rw [nameFor]
  cases Engine.render? template name with
  | none => simp
  | some t =>
    dsimp only
    split <;> simp

variable (hengine : RendersBasic) (hbasic : isBasic template = true)

include hengine hbasic

lemma render?_of_nameFor (h : nameFor template name = .ok text) :
    render? template name = some text := by
  rw [← hengine template hbasic]
  exact (nameFor_eq_ok_iff.mp h).1

lemma isSome_render?_of_nameFor (h : nameFor template sample = .ok text) (name : String) :
    (render? template name).isSome = true := by
  rw [isSome_render? hbasic name sample, render?_of_nameFor hengine hbasic h]
  rfl

/-- A basic template that gives a name for one name can be rendered for every other one. -/
theorem nameFor_ne_malformed (h : nameFor template sample = .ok text) (name : String) :
    nameFor template name ≠ .error .malformed := by
  have hrendered := isSome_render?_of_nameFor hengine hbasic h name
  intro hmalformed
  rw [← hengine template hbasic, nameFor_eq_malformed_iff.mp hmalformed] at hrendered
  exact Bool.false_ne_true hrendered

/-- A basic template that can be rendered gives a name where it shows it. -/
lemma exists_nameFor_eq_ok (hsample : sample ≠ "") (h : nameFor template sample = .ok text)
    (hshows : ShowsName template sample) (name : String) :
    ∃ text, nameFor template name = .ok text := by
  obtain ⟨t, ht⟩ := Option.isSome_iff_exists.mp
    (isSome_render?_of_nameFor hengine hbasic h name)
  refine ⟨t, nameFor_eq_ok_iff.mpr ⟨(hengine template hbasic name).trans ht, ?_⟩⟩
  by_cases hname : name = ""
  · rw [hname, String.toList_empty]
    exact List.nil_infix
  · obtain ⟨v, hmem, hv⟩ := hshows
    rw [render?_eq] at ht
    obtain ⟨values, hvalues, htext⟩ := Option.bind_eq_some_iff.mp ht
    rw [values?_congr hsample hname, hvalues, Option.getD_some] at hmem
    exact infix_textOf? hmem hv htext

/-- A basic template that gives a name for one name gives one for all others exactly if it shows the
name. -/
theorem nameFor_ok_iff (hsample : sample ≠ "") (h : nameFor template sample = .ok text) :
    (∀ name, ∃ text, nameFor template name = .ok text) ↔ ShowsName template sample := by
  refine ⟨fun hall => ?_, exists_nameFor_eq_ok hengine hbasic hsample h⟩
  by_contra hhidden
  -- A name of more letters than the text is long for the other one cannot be in its own text.
  have hn : 0 < text.toList.length + 1 := Nat.succ_pos _
  have hname := titleName_ne_empty hn
  obtain ⟨s, hs⟩ := hall (titleName (text.toList.length + 1))
  have hinfix := (nameFor_eq_ok_iff.mp hs).2
  have hrender := render?_of_nameFor hengine hbasic hs
  have hrender' := render?_of_nameFor hengine hbasic h
  rw [render?_eq] at hrender hrender'
  obtain ⟨values, hvalues, htext⟩ := Option.bind_eq_some_iff.mp hrender
  obtain ⟨values', hvalues', htext'⟩ := Option.bind_eq_some_iff.mp hrender'
  obtain rfl : values = values' := by
    rw [values?_congr hname hsample, hvalues'] at hvalues
    exact (Option.some.inj hvalues).symm
  have hbare : ∀ v ∈ values, nameItself ∉ v := fun v hv hmem =>
    hhidden ⟨v, by rw [hvalues']; exact hv, hmem⟩
  have hletters : (titleName (text.toList.length + 1)).toList.count titleLetter
      = text.toList.length + 1 := by
    rw [titleName, String.toList_ofList, List.count_replicate_self]
  have hcount := count_le_of_textOf? hn hsample hbare htext htext'
  have hwithin := hinfix.sublist.count_le titleLetter
  omega

end

end OpenApiTypes.Template
