/-
Templates that keep names apart.

* `Template.Operand.cases?`: the cases in which an operand prints the name;
* `Template.textOf?_eq`: a text is put together of those of all operands;
* `Template.Shown`: the texts of the same operands for two names, `Template.Shown.eq_of_join_eq`: if
  all of them are of the same length, they are the same where they are put together the same;
* `Template.eq_of_textOf?_eq`: so values that show the name, whatever else they make of it, have
  different texts for different names;
* `Template.TellsApart`: a template gives different texts for different names;
  `Template.tellsApart_of_showsName`: and so does a basic template that prints such values.
-/
import OpenApiTypes.Proofs.Naming.Rendering
import OpenApiTypes.Proofs.Text.Expansion
import OpenApiTypes.Proofs.Text.Lettering

namespace OpenApiTypes.Template

open OpenApiTypes.Text

/-! ### Operands -/

/-- The case that a filter puts a text in. -/
def case? (filter : String) : Option Case :=
  if filter == "upper" then some .upper else if filter == "lower" then some .lower else none

lemma filtered?_eq (filter text : String) :
    filtered? filter text = (case? filter).map fun k => k.apply text := by
  unfold filtered? case?
  split_ifs <;> rfl

/-- The cases in which an operand prints the name, one after the other. -/
def Operand.cases? (o : Operand) : Option (List Case) :=
  if o.atom = .variable "name" ∧ o.attributes = [] then o.filters.mapM case? else none

/-- What filters make of a text. -/
abbrev filterAll? (filters : List String) (c : Content) : Option Content :=
  filters.foldlM (fun c filter => (filtered? filter c.toText).map .text) c

lemma filterAll?_cons (filter : String) (filters : List String) (c : Content) :
    filterAll? (filter :: filters) c
      = (case? filter).bind fun k => filterAll? filters (.text (k.apply c.toText)) := by
  rw [filterAll?, List.foldlM_cons, filtered?_eq]
  cases case? filter <;> rfl

lemma toText_of_filterAll? {filters : List String} {cases : List Case} {c d : Content}
    (h : filters.mapM case? = some cases) (hd : filterAll? filters c = some d) :
    d.toText = applyAll cases c.toText := by
  induction filters generalizing c cases with
  | nil =>
    obtain rfl := Option.some.inj h
    obtain rfl := Option.some.inj hd
    rfl
  | cons filter filters ih =>
    rw [List.mapM_cons] at h
    obtain ⟨k, hk, h⟩ := Option.bind_eq_some_iff.mp h
    obtain ⟨rest, hrest, h⟩ := Option.bind_eq_some_iff.mp h
    obtain rfl := Option.some.inj h
    rw [filterAll?_cons, hk] at hd
    rw [applyAll]
    exact ih hrest hd

lemma filterAll?_eq_none {filters : List String} (h : filters.mapM case? = none) (c : Content) :
    filterAll? filters c = none := by
  induction filters generalizing c with
  | nil => simp at h
  | cons filter filters ih =>
    rw [filterAll?_cons]
    cases hk : case? filter with
    | none => rfl
    | some k =>
      refine ih ?_ _
      rw [List.mapM_cons, hk] at h
      cases hrest : filters.mapM case? with
      | none => rfl
      | some rest => simp [hrest] at h

/-- An operand prints the name in its cases. -/
lemma toText_of_cases? {o : Operand} {cases : List Case} (h : o.cases? = some cases) {name : String}
    {c : Content} (hc : o.content? name = some c) : c.toText = applyAll cases name := by
  obtain ⟨atom, attributes, filters⟩ := o
  unfold Operand.cases? at h
  split_ifs at h with hname
  obtain ⟨rfl, rfl⟩ := hname
  exact toText_of_filterAll? h hc

/-- Any other operand stands for the same whatever the name. -/
lemma content?_congr {o : Operand} (h : o.cases? = none) (name other : String) :
    o.content? name = o.content? other := by
  obtain ⟨atom, attributes, filters⟩ := o
  match atom, attributes with
  | .constant _, _ => rfl
  | .variable v, a :: attributes =>
    by_cases hv : v = "name" <;> simp [Operand.content?, Atom.content, hv, Content.attribute?]
  | .variable v, [] =>
    by_cases hv : v = "name"
    · subst hv
      have hfilters : filters.mapM case? = none := by simpa [Operand.cases?] using h
      exact (filterAll?_eq_none hfilters _).trans (filterAll?_eq_none hfilters _).symm
    · simp [Operand.content?, Atom.content, hv]

/-! ### Texts of operands -/

/-- The text of an operand. -/
def operandText? (name : String) (o : Operand) : Option String :=
  (o.content? name).map Content.toText

lemma mapM_optionMap {α β γ : Type} (f : α → Option β) (g : β → γ) (l : List α) :
    (l.mapM fun a => (f a).map g) = (l.mapM f).map (List.map g) := by
  induction l with
  | nil => rfl
  | cons a l ih =>
    rw [List.mapM_cons, List.mapM_cons, ih]
    cases f a with
    | none => rfl
    | some b => cases l.mapM f <;> rfl

lemma contentOf?_toText (name : String) (v : Value) :
    (contentOf? name v).map Content.toText = (v.mapM (operandText? name)).map String.join := by
  unfold operandText? contentOf?
  rw [mapM_optionMap]
  cases v.mapM (Operand.content? name) with
  | none => rfl
  | some contents =>
    match contents with
    | [] => rfl
    | [c] => simp
    | c :: d :: rest => rfl

/-- A text is put together of those of all operands. -/
lemma textOf?_eq (name : String) (values : List Value) :
    textOf? name values = (values.flatten.mapM (operandText? name)).map String.join := by
  induction values with
  | nil => rfl
  | cons v values ih =>
    rw [textOf?_cons, contentOf?_toText, ih, List.flatten_cons, List.mapM_append]
    cases v.mapM (operandText? name) with
    | none => rfl
    | some ts =>
      cases values.flatten.mapM (operandText? name) with
      | none => rfl
      | some us => simp

/-- The texts of the same operands for two names: they are the same, or they are the names in the
same cases, which are listed. -/
inductive Shown (name other : String) : List (List Case) → List String → List String → Prop where
  | nil : Shown name other [] [] []
  | constant (text : String) {total : List (List Case)} {ts us : List String}
      (rest : Shown name other total ts us) : Shown name other total (text :: ts) (text :: us)
  | name (cases : List Case) {total : List (List Case)} {ts us : List String}
      (rest : Shown name other total ts us) :
      Shown name other (cases :: total) (applyAll cases name :: ts) (applyAll cases other :: us)

lemma shown_of_mapM {name other : String} {operands : List Operand} {ts us : List String}
    (h : operands.mapM (operandText? name) = some ts)
    (h' : operands.mapM (operandText? other) = some us) :
    Shown name other (operands.filterMap Operand.cases?) ts us := by
  induction operands generalizing ts us with
  | nil =>
    obtain rfl := Option.some.inj h
    obtain rfl := Option.some.inj h'
    exact .nil
  | cons o operands ih =>
    rw [List.mapM_cons] at h h'
    obtain ⟨t, ht, h⟩ := Option.bind_eq_some_iff.mp h
    obtain ⟨ts, hts, h⟩ := Option.bind_eq_some_iff.mp h
    obtain ⟨u, hu, h'⟩ := Option.bind_eq_some_iff.mp h'
    obtain ⟨us, hus, h'⟩ := Option.bind_eq_some_iff.mp h'
    obtain rfl := Option.some.inj h
    obtain rfl := Option.some.inj h'
    have hrest := ih hts hus
    cases hcases : o.cases? with
    | none =>
      rw [operandText?, content?_congr hcases name other] at ht
      obtain rfl : t = u := Option.some.inj (ht.symm.trans hu)
      rw [List.filterMap_cons_none hcases]
      exact .constant t hrest
    | some cases =>
      obtain ⟨c, hc, rfl⟩ := Option.map_eq_some_iff.mp ht
      obtain ⟨d, hd, rfl⟩ := Option.map_eq_some_iff.mp hu
      rw [List.filterMap_cons_some hcases, toText_of_cases? hcases hc, toText_of_cases? hcases hd]
      exact .name cases hrest

namespace Shown

variable {name other : String} {total : List (List Case)} {ts us : List String}

/-- The texts weigh what the names become in all cases together. -/
lemma weight_add (h : Shown name other total ts us) {φ : Char → Nat} (hφ : Levels φ) :
    weight φ (String.join ts).toList + weight (fun c => weight φ (together total c)) other.toList
      = weight φ (String.join us).toList
        + weight (fun c => weight φ (together total c)) name.toList := by
  induction h with
  | nil => simp [together]
  | constant text rest ih =>
    simp only [String.join_cons, String.toList_append, weight_append]
    omega
  | @name cases total ts us rest ih =>
    have htogether : ∀ s : String, weight (fun c => weight φ (together (cases :: total) c)) s.toList
        = weight φ (applyAll cases s).toList
          + weight (fun c => weight φ (together total c)) s.toList := by
      intro s
      rw [weight_applyAll hφ, ← Text.weight_add]
      simp only [together, List.flatMap_cons, weight_append]
    simp only [String.join_cons, String.toList_append, weight_append, htogether]
    omega

/-- Texts of the same lengths that are put together the same are the same. -/
lemma eq_of_join_eq (h : Shown name other total ts us)
    (hlength : ∀ cases, (applyAll cases name).toList.length = (applyAll cases other).toList.length)
    (hjoin : String.join ts = String.join us) :
    ∀ cases ∈ total, applyAll cases name = applyAll cases other := by
  induction h with
  | nil => simp
  | constant text rest ih =>
    rw [String.join_cons, String.join_cons] at hjoin
    exact ih (append_right_injective text hjoin)
  | name cases rest ih =>
    rw [String.join_cons, String.join_cons, ← String.toList_inj, String.toList_append,
      String.toList_append] at hjoin
    obtain ⟨hfirst, hrest⟩ := List.append_inj hjoin (hlength cases)
    exact List.forall_mem_cons.mpr ⟨String.toList_inj.mp hfirst, ih (String.toList_inj.mp hrest)⟩

/-- If one of the texts is the name as it is, the names are the same. -/
lemma name_eq (h : Shown name other total ts us) (hplain : [] ∈ total)
    (hjoin : String.join ts = String.join us) : name = other := by
  have hweight : ∀ φ, Levels φ → weight (fun c => weight φ (together total c)) name.toList
      = weight (fun c => weight φ (together total c)) other.toList := by
    intro φ hφ
    have hadd := h.weight_add hφ
    rw [hjoin] at hadd
    exact (Nat.add_left_cancel hadd).symm
  exact h.eq_of_join_eq (length_applyAll_eq hplain hweight) hjoin [] hplain

end Shown

/-! ### Names -/

variable {template sample name other text : String}

/-- Values that show the name have different texts for different names. -/
lemma eq_of_textOf?_eq {values : List Value} {v : Value} (hmem : v ∈ values) (hv : nameItself ∈ v)
    (h : textOf? name values = some text) (h' : textOf? other values = some text) :
    name = other := by
  rw [textOf?_eq] at h h'
  obtain ⟨ts, hts, hjoin⟩ := Option.map_eq_some_iff.mp h
  obtain ⟨us, hus, hjoin'⟩ := Option.map_eq_some_iff.mp h'
  have hoperand : nameItself ∈ values.flatten := List.mem_flatten.mpr ⟨v, hmem, hv⟩
  have hplain : [] ∈ values.flatten.filterMap Operand.cases? :=
    List.mem_filterMap.mpr ⟨nameItself, hoperand, rfl⟩
  exact (shown_of_mapM hts hus).name_eq hplain (hjoin.trans hjoin'.symm)

/-- A template has different texts for different names that are not empty. -/
def TellsApart [Engine] (template : String) : Prop :=
  ∀ name other text, name ≠ "" → other ≠ "" → nameFor template name = .ok text →
    nameFor template other = .ok text → name = other

/-- A basic template that shows the name does so, whatever else it makes of it. -/
theorem tellsApart_of_showsName [Engine] (hengine : RendersBasic)
    (hbasic : isBasic template = true) (hsample : sample ≠ "")
    (hshows : ShowsName template sample) : TellsApart template := by
  intro name other text hname hother h h'
  obtain ⟨v, hmem, hv⟩ := hshows
  have hrender := render?_of_nameFor hengine hbasic h
  have hrender' := render?_of_nameFor hengine hbasic h'
  rw [render?_eq, values?_congr hname hsample] at hrender
  rw [render?_eq, values?_congr hother hsample] at hrender'
  obtain ⟨values, hvalues, htext⟩ := Option.bind_eq_some_iff.mp hrender
  rw [hvalues] at hrender' hmem
  exact eq_of_textOf?_eq hmem hv htext hrender'

end OpenApiTypes.Template
