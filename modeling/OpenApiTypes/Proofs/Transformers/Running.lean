/-
Generated statements on conforming values.

* `Transformers.Handled`: the statements of a schema run on whatever a value has become, and restore
  the leaves of the schema in it;
* `Transformers.Screened`: they do so behind a test for null;
* `Transformers.Handled.component`, `Transformers.Handled.array`, `Transformers.Handled.object`,
  `Transformers.Handled.leaf`, `Transformers.Handled.composition`: statements for each kind of
  schema, if those for its parts do;
* `Transformers.handled_of_conforms`: so do the statements for every conforming value but null.
-/
import OpenApiTypes.Proofs.Transformers.Nullness
import OpenApiTypes.Proofs.Transformers.Positions

namespace OpenApiTypes.Transformers

open OpenApiTypes.Model
open OpenApiTypes.Output (Registry)
open OpenApiTypes.TypeScript
open OpenApiTypes.Config (TransformersOptions)

variable {options : TransformersOptions} {numberText : Number → String} {api : Api} {lossy : Prop}
  {r : Registry} {g : Nat → Globals} {s element : Schema} {v : Json} {t w : Tree} {target : Expr}
  {stmts : List Stmt}

/-- The statements of a schema turn whatever a value has become into a tree in which the leaves of
the schema are restored, unless statements were left out because schemas nest too deep. -/
def Handled (options : TransformersOptions) (numberText : Number → String) (api : Api)
    (lossy : Prop) (r : Registry) (g : Nat → Globals) (s : Schema) (v : Json) : Prop :=
  ∀ ⦃target stmts t⦄, Emits options lossy r s target stmts → (Tree.ofJson v).Becomes numberText t →
    ∃ w, t.Becomes numberText w ∧ Acts g target stmts t w
      ∧ (¬ lossy → Converted options numberText api.catalog s v w)

/-- The statements of a schema do so if they are not run for null where the schema has a test for
it. -/
def Screened (options : TransformersOptions) (numberText : Number → String) (api : Api)
    (lossy : Prop) (r : Registry) (g : Nat → Globals) (s : Schema) (v : Json) : Prop :=
  ∀ ⦃target stmts t⦄, Emits options lossy r s target stmts → (Tree.ofJson v).Becomes numberText t →
    ∃ w, t.Becomes numberText w
      ∧ ((t = .scalar .null → s.admitsNull = false) → Acts g target stmts t w)
      ∧ (¬ lossy → Converted options numberText api.catalog s v w)

/-- Without statements, a tree stays as it is. -/
lemma exists_unchanged (hconverted : ¬ lossy → Converted options numberText api.catalog s v t) :
    ∃ w, t.Becomes numberText w ∧ Acts g target [] t w
      ∧ (¬ lossy → Converted options numberText api.catalog s v w) :=
  ⟨t, .refl t, Acts.nil, hconverted⟩

/-- Statements one after the other, for the items of a composition. -/
lemma exists_acts_flatMap {xs : List (Schema × List Stmt)}
    (h : ∀ x ∈ xs, ∀ {t}, (Tree.ofJson v).Becomes numberText t → ∃ w, t.Becomes numberText w
      ∧ Acts g target x.2 t w ∧ (¬ lossy → Converted options numberText api.catalog x.1 v w))
    (hbecomes : (Tree.ofJson v).Becomes numberText t) : ∃ w, t.Becomes numberText w
      ∧ Acts g target (xs.flatMap Prod.snd) t w
      ∧ ∀ x ∈ xs, ¬ lossy → Converted options numberText api.catalog x.1 v w := by
  induction xs generalizing t with
  | nil => exact ⟨t, .refl t, Acts.nil, by simp⟩
  | cons x xs ih =>
    obtain ⟨hx, hxs⟩ := List.forall_mem_cons.mp h
    obtain ⟨u, hu, hacts, hconverted⟩ := hx hbecomes
    obtain ⟨w, hw, hrest, hall⟩ := ih hxs (hbecomes.trans hu)
    exact ⟨w, hu.trans hw, hacts.append hrest,
      List.forall_mem_cons.mpr ⟨fun hl => (hconverted hl).mono hw, hall⟩⟩

/-- If one item of a union with statements is not null, every other one is. -/
lemma isNullish_of_ne (hoperator : s.operator = .or) (happlies : appliesItems s = true)
    {item other : Schema} (hitem : item ∈ s.items) (hother : other ∈ s.items) (hne : other ≠ item)
    (hpresent : isNullish item = true → False) : isNullish other = true := by
  have hpair : s.items.length = 1 ∨ isNullablePair s.items = true := by
    simpa [appliesItems, hoperator] using happlies
  rcases hpair with hone | hpair
  · obtain ⟨only, honly⟩ := List.length_eq_one_iff.mp hone
    simp only [honly, List.mem_singleton] at hitem hother
    exact absurd (hother.trans hitem.symm) hne
  · simp only [isNullablePair, Bool.and_eq_true, beq_iff_eq, List.any_eq_true] at hpair
    obtain ⟨htwo, nothing, hnothing, hnullish⟩ := hpair
    obtain ⟨first, second, hitems⟩ := List.length_eq_two.mp htwo
    have hdiffers : nothing ≠ item := by
      rintro rfl
      exact hpresent hnullish
    simp only [hitems, List.mem_cons, List.not_mem_nil, or_false] at hitem hother hnothing
    obtain rfl : nothing = other := by
      rcases hitem with rfl | rfl <;> rcases hother with rfl | rfl <;>
        rcases hnothing with rfl | rfl <;> simp_all
    exact hnullish

section

variable (hlinked : Linked options numberText api lossy r g)
include hlinked

/-- Where a schema spares null, its statements are screened. -/
lemma screened_of_spares (hspares : Spares options api s) (h : Conforms api.catalog s v)
    (hhandled : v ≠ .null → Handled options numberText api lossy r g s v) :
    Screened options numberText api lossy r g s v := by
  intro target stmts t he hbecomes
  by_cases hv : v = .null
  · subst hv
    obtain rfl : t = .scalar .null := hbecomes.eq_null_iff.mpr rfl
    refine ⟨.scalar .null, .refl _, fun hadmits => ?_, fun _ => .null⟩
    rcases hspares h with hyes | hbears
    · simp [hadmits rfl] at hyes
    · exact hbears.acts hlinked he
  · obtain ⟨w, hw, hacts, hconverted⟩ := hhandled hv he hbecomes
    exact ⟨w, hw, fun _ => hacts, hconverted⟩

namespace Handled

lemma component {s' : Schema} {pointer : String} (hpointer : s.pointer = some pointer)
    (hfind : api.catalog.find? pointer = some s') (hv : v ≠ .null)
    (h : Handled options numberText api lossy r g s' v) :
    Handled options numberText api lossy r g s v := by
  intro target stmts t he hbecomes
  have hcomponent : Pointer.schemaName? pointer ≠ none := by
    intro hnone
    simp [Catalog.find?, hnone] at hfind
  have hpresent : t ≠ .scalar .null := fun ht =>
    hv (Tree.ofJson_eq_null_iff.mp (hbecomes.eq_null_iff.mp ht))
  rcases he.of_pointer hpointer hcomponent with
    ⟨hl, rfl⟩ | ⟨p, name, hreference, ⟨hentry, rfl⟩ | ⟨hentry, rfl⟩⟩
  · exact exists_unchanged fun hwhole => absurd hl hwhole
  · obtain ⟨body, hbody, hcalls⟩ :=
      hlinked.exists_function (f := .helper pointer) trivial hreference hfind hentry
    obtain ⟨w, hw, hacts, hconverted⟩ := h hbody hbecomes
    refine ⟨w, hw, fun hholds => ?_, fun hwhole => (hconverted hwhole).component hpointer hfind⟩
    exact .helper hlinked hcalls hbody.not_isReturn hholds (fun ht => absurd ht hpresent)
      fun _ hparameter => hacts hparameter
  · refine exists_unchanged fun hwhole => ?_
    exact .of_blank hlinked.unambiguous ((he.blank rfl hlinked.withdrawn).mono hwhole)

lemma array {rest : List Schema} {values : List Json} (hpointer : s.pointer = none)
    (hshape : s.shape = some .array) (hitems : s.items = element :: rest)
    (h : ∀ v ∈ values, Screened options numberText api lossy r g element v) :
    Handled options numberText api lossy r g s (.arr values) := by
  intro target stmts t he hbecomes
  rcases he.of_array hpointer hshape hitems with ⟨hl, rfl⟩ | ⟨body, hbody, rfl⟩
  · exact exists_unchanged fun hwhole => absurd hl hwhole
  by_cases hempty : body = []
  · subst hempty
    have hnil : arrayBody target (guardedBody element item []) = [] := by simp
    have hblank := he.blank hnil hlinked.withdrawn
    rw [hnil]
    exact exists_unchanged fun hwhole => .of_blank hlinked.unambiguous (hblank.mono hwhole)
  obtain ⟨parts, rfl, rfl, hparts⟩ := hbecomes.exists_elements
  have hpart : ∀ x ∈ parts, ∃ w, x.2.Becomes numberText w
      ∧ ((x.2 = .scalar .null → element.admitsNull = false) → Acts g item body x.2 w)
      ∧ (¬ lossy → Converted options numberText api.catalog element x.1 w) :=
    fun x hx => h x.1 (List.mem_map_of_mem hx) hbody (hparts x hx)
  choose! f hf hacts hconverted using hpart
  let pairs := parts.map fun x => (x.2, f x)
  have hsource : parts.map Prod.snd = pairs.map Prod.fst := by simp [pairs]
  have htarget : parts.map f = pairs.map Prod.snd := by simp [pairs]
  have hpairs : ∀ x ∈ pairs, x.1.Becomes numberText x.2 := List.forall_mem_map.mpr hf
  refine ⟨.array (parts.map f), ?_, fun hholds => ?_, fun hwhole => ?_⟩
  · rw [hsource, htarget]
    exact .array hpairs
  · rw [hsource] at hholds
    rw [htarget]
    refine .array hholds (by simpa using hempty) (List.forall_mem_map.mpr fun x hx slot htree => ?_)
    refine Restoring.callback hlinked hholds.enclosed (fun hnull => ?_) hbody.not_isReturn
      fun hadmits hparameter => ?_
    · exact (hf x hx).eq_null_iff.mpr (htree.symm.trans hnull)
    · rw [htree] at hadmits hparameter
      exact hacts x hx hadmits hparameter
  · have hall : ∀ x ∈ parts.map fun x => (x.1, f x),
        Converted options numberText api.catalog element x.1 x.2 :=
      List.forall_mem_map.mpr fun x hx => hconverted x hx hwhole
    simpa [Function.comp_def] using Converted.elements hpointer hshape hitems hall

lemma object {members : List (String × Json)} (hpointer : s.pointer = none)
    (hshape : s.shape = some .object) (hnodup : (s.properties.map Prod.fst).Nodup)
    (hown : OwnNames options api s)
    (hrequired : ∀ name ∈ s.required, name ∈ members.map Prod.fst)
    (h : ∀ property ∈ s.properties, ∀ x ∈ members, x.1 = property.1 →
      Screened options numberText api lossy r g property.2 x.2) :
    Handled options numberText api lossy r g s (.obj members) := by
  intro target stmts t he hbecomes
  rcases he.of_object hpointer hshape with ⟨hl, rfl⟩ | ⟨bodies, hlength, hbodies, rfl⟩
  · exact exists_unchanged fun hwhole => absurd hl hwhole
  obtain ⟨parts, rfl, rfl, hparts⟩ := hbecomes.exists_members
  -- The statements for a member are those for the one property of its name, if there is one.
  have hzip := map_name_zip hlength.ge
  have hpart : ∀ x ∈ parts, ∃ w, x.2.2.Becomes numberText w
      ∧ (∀ y ∈ s.properties.zip bodies, x.1 = y.1.1 →
        ((x.2.2 = .scalar .null → y.1.2.admitsNull = false) →
          Acts g (.property target y.1.1) y.2 x.2.2 w)
        ∧ (¬ lossy → Converted options numberText api.catalog y.1.2 x.2.1 w))
      ∧ (x.1 ∉ s.properties.map Prod.fst → w = x.2.2) := by
    intro x hx
    by_cases hname : x.1 ∈ s.properties.map Prod.fst
    · obtain ⟨y, hy, heq⟩ := List.mem_map.mp (hzip ▸ hname)
      obtain ⟨w, hw, hacts, hconverted⟩ := h y.1 (List.of_mem_zip hy).1 (x.1, x.2.1)
        (List.mem_map_of_mem hx) heq.symm (hbodies y hy) (hparts x hx)
      refine ⟨w, hw, fun y' hy' heq' => ?_, fun hno => absurd hname hno⟩
      obtain rfl := List.inj_on_of_nodup_map (hzip ▸ hnodup) hy hy' (heq.trans heq')
      exact ⟨hacts, hconverted⟩
    · refine ⟨x.2.2, .refl _, fun y hy heq => absurd ?_ hname, fun _ => rfl⟩
      exact heq ▸ List.mem_map_of_mem (List.of_mem_zip hy).1
  choose! f hf hproperty hother using hpart
  let entries := parts.map fun x => (x.1, x.2.2, f x)
  have hsource : (parts.map fun x => (x.1, x.2.2)) = entries.map fun x => (x.1, x.2.1) := by
    simp [entries, Function.comp_def]
  have htarget : (parts.map fun x => (x.1, f x)) = entries.map fun x => (x.1, x.2.2) := by
    simp [entries, Function.comp_def]
  have hentries : ∀ x ∈ entries, x.2.1.Becomes numberText x.2.2 := List.forall_mem_map.mpr hf
  refine ⟨.record (parts.map fun x => (x.1, f x)), ?_, fun hholds => ?_, fun hwhole => ?_⟩
  · rw [hsource, htarget]
    exact .record hentries
  · rw [hsource] at hholds
    rw [htarget]
    refine .object hlinked hholds hnodup hlength ?_
      (hown.required_or_eq_nil hlinked.sound hpointer hshape hbodies)
      (List.forall_mem_map.mpr hother) fun y hy => List.forall_mem_map.mpr fun x hx heq =>
        ⟨fun hnull => ?_, fun hmember hadmits => ?_⟩
    · simpa [entries, Function.comp_def] using hrequired
    · exact (hf x hx).eq_null_iff.mpr hnull
    · exact (hproperty x hx y hy heq).1 hadmits hmember
  · have hall : ∀ property ∈ s.properties, ∀ x ∈ parts.map fun x => (x.1, x.2.1, f x),
        x.1 = property.1 → Converted options numberText api.catalog property.2 x.2.1 x.2.2 :=
      fun property hmem => List.forall_mem_map.mpr fun x hx heq => by
        obtain ⟨body, hbody⟩ := exists_mem_zip hlength hmem
        exact (hproperty x hx _ hbody heq).2 hwhole
    simpa [Function.comp_def] using Converted.members hpointer hshape hall

lemma leaf (hnumbers : WritesIntegers numberText) (hpointer : s.pointer = none)
    (hitems : s.items = []) (harray : s.shape ≠ some .array) (hobject : s.shape ≠ some .object)
    (hadmits : s.Admits v) : Handled options numberText api lossy r g s v := by
  intro target stmts t he hbecomes
  rcases he.of_leaf hpointer hitems harray hobject with ⟨hl, rfl⟩ | rfl
  · exact exists_unchanged fun hwhole => absurd hl hwhole
  obtain ⟨w, hrevives⟩ : ∃ w, Revives options numberText s v w := exists_revives hnumbers hadmits
  have hconverted : Converted options numberText api.catalog s v w :=
    .leaf hpointer hitems hobject hrevives
  cases hrevives with
  | date hdate text =>
    have ht : t = .scalar (.string text) ∨ t = .scalar (.date text) := by
      cases hbecomes <;> simp [Tree.ofJson]
    rw [revive_of_isDate hdate]
    refine ⟨.scalar (.date text), ?_, fun hholds => .date hlinked ht hholds, fun _ => hconverted⟩
    rcases ht with rfl | rfl
    · exact .date text
    · exact .refl _
  | @bigint hbigint n i hi =>
    have ht : (∃ n, t = .scalar (.number n) ∧ IsBigintOf numberText n i)
        ∨ t = .scalar (.bigint i) := by
      cases hbecomes with
      | refl => exact .inl ⟨n, rfl, hi⟩
      | bigint hi' => exact .inr (by rw [hi.unique hi'])
    rw [revive_of_isBigint hbigint]
    refine ⟨.scalar (.bigint i), ?_, fun hholds => .bigint hlinked ht hholds, fun _ => hconverted⟩
    rcases ht with ⟨n, rfl, hi⟩ | rfl
    · exact .bigint hi
    · exact .refl _
  | same hdate hbigint =>
    -- The items of a composition before this one may have restored the value.
    rw [revive_of_not hdate hbigint]
    refine exists_unchanged fun _ => .of_not_leafAt fun hleaf => ?_
    obtain ⟨-, rfl⟩ := hleaf.of_leaf hpointer hitems hobject
    exact ⟨hdate, hbigint⟩

omit hlinked in
/-- The statements for all items of a composition. -/
lemma composition (hpointer : s.pointer = none) (hshape : isContainer s = false)
    (hitems : s.items ≠ []) (h : appliesItems s = true →
      ∀ item ∈ s.items, Handled options numberText api lossy r g item v) :
    Handled options numberText api lossy r g s v := by
  intro target stmts t he hbecomes
  by_cases happlies : appliesItems s = true
  · rcases he.of_composition hpointer hshape happlies hitems with
      ⟨hl, rfl⟩ | ⟨bodies, hlength, hbodies, rfl⟩
    · exact exists_unchanged fun hwhole => absurd hl hwhole
    obtain ⟨w, hw, hacts, hall⟩ := exists_acts_flatMap
      (fun x hx _ hbecomes => h happlies x.1 (List.of_mem_zip hx).1 (hbodies x hx) hbecomes)
      hbecomes
    refine ⟨w, hw, hacts, fun hwhole => .composition hpointer hshape hitems fun item hitem => ?_⟩
    obtain ⟨body, hbody⟩ := exists_mem_zip hlength hitem
    exact hall _ hbody hwhole
  · obtain rfl := he.of_union hpointer hshape (by simpa using happlies) hitems
    refine exists_unchanged fun _ => .of_not_leafAt fun hleaf => ?_
    exact absurd (hleaf.of_composition hpointer hshape hitems).1 happlies

omit hlinked in
/-- For null there are no statements. -/
lemma of_isNullish (hpointer : s.pointer = none) (hregular : Regular s)
    (hnullish : isNullish s = true) : Handled options numberText api lossy r g s v := by
  obtain ⟨hcontainer, hshape, hdate, hbigint⟩ : isContainer s = false ∧ s.shape ≠ none
      ∧ ¬ IsDate options s ∧ ¬ IsBigint options s := by
    unfold isNullish at hnullish
    cases hs : s.shape with
    | none => simp [hs] at hnullish
    | some shape =>
      cases shape <;> simp_all [Shape.isNullish, isContainer, IsDate, IsBigint]
  obtain ⟨harray, hobject⟩ := shape_ne_of_isContainer hcontainer
  have hitems : s.items = [] := by
    by_contra hne
    exact hshape (hregular.items hpointer hcontainer hne)
  intro target stmts t he _
  obtain rfl : stmts = [] := by
    rcases he.of_leaf hpointer hitems harray hobject with ⟨-, hnil⟩ | hrevive
    · exact hnil
    · exact hrevive.trans (revive_of_not hdate hbigint)
  refine exists_unchanged fun _ => .of_not_leafAt fun hleaf => ?_
  obtain ⟨-, rfl⟩ := hleaf.of_leaf hpointer hitems hobject
  exact ⟨hdate, hbigint⟩

end Handled

/-- The statements of a schema run on every conforming value but null and restore its leaves. -/
theorem handled_of_conforms (hnumbers : WritesIntegers numberText)
    (h : Conforms api.catalog s v) (hregular : ∀ t, Visits api.catalog s t → Regular t)
    (hown : ∀ t, Visits api.catalog s t → OwnNames options api t)
    (hspares : ∀ t, Tested api.catalog s t → Spares options api t) (hv : v ≠ .null) :
    Handled options numberText api lossy r g s v := by
  have hbelow {s t : Schema} (hstep : Follows api.catalog s t)
      (hregular : ∀ u, Visits api.catalog s u → Regular u)
      (hown : ∀ u, Visits api.catalog s u → OwnNames options api u)
      (hspares : ∀ u, Tested api.catalog s u → Spares options api u) :
      (∀ u, Visits api.catalog t u → Regular u)
        ∧ (∀ u, Visits api.catalog t u → OwnNames options api u)
        ∧ ∀ u, Tested api.catalog t u → Spares options api u :=
    ⟨hstep.forall_visits hregular, hstep.forall_visits hown,
      fun u hu => hspares u (hu.head hstep)⟩
  induction h with
  | component hpointer hfind _ ih =>
    obtain ⟨hregular', hown', hspares'⟩ := hbelow (.component hpointer hfind) hregular hown hspares
    exact .component hlinked hpointer hfind hv (ih hregular' hown' hspares' hv)
  | @array s values hpointer hshape h ih =>
    cases hitems : s.items with
    | nil =>
      intro target stmts t he _
      obtain rfl := he.of_whole hpointer (.inr (.inr ⟨hshape, hitems⟩))
      refine exists_unchanged fun _ => .of_not_leafAt fun hleaf => ?_
      obtain ⟨_, _, _, _, hcons, -⟩ := hleaf.of_array hpointer hshape
      simp [hitems] at hcons
    | cons element rest =>
      have hstep : Follows api.catalog s element := .element hpointer hshape hitems
      obtain ⟨hregular', hown', hspares'⟩ := hbelow hstep hregular hown hspares
      have hhead : element ∈ s.items.head? := by simp [hitems]
      refine .array hlinked hpointer hshape hitems fun v hv => ?_
      refine screened_of_spares hlinked (hspares element (.step .refl hstep (.inr ?_)))
        (h element hhead v hv) (ih element hhead v hv hregular' hown' hspares')
      simp [isContainer, hshape]
  | @object s members hpointer hshape hrequired h ih =>
    refine .object hlinked hpointer hshape ((hregular s .refl).distinct hpointer hshape)
      (hown s .refl) hrequired fun property hproperty x hx heq => ?_
    have hstep : Follows api.catalog s property.2 := .property hpointer hshape hproperty
    obtain ⟨hregular', hown', hspares'⟩ := hbelow hstep hregular hown hspares
    refine screened_of_spares hlinked (hspares property.2 (.step .refl hstep (.inr ?_)))
      (h property hproperty x hx heq) (ih property hproperty x hx heq hregular' hown' hspares')
    simp [isContainer, hshape]
  | @leaf s v hpointer harray hobject hitems hadmits =>
    by_cases hfixed : s.shape = some .tuple ∨ s.shape = some .enum
    · intro target stmts t he _
      obtain rfl := he.of_whole hpointer (hfixed.imp id .inl)
      exact exists_unchanged fun _ =>
        .of_not_leafAt fun hleaf => (hleaf.not_fixed hpointer hfixed).elim
    · refine .leaf hlinked hnumbers hpointer ?_ harray hobject hadmits
      by_contra hne
      have hcontainer : isContainer s = false := by
        unfold isContainer
        split <;> simp_all
      exact hne (hitems ((hregular s .refl).items hpointer hcontainer hne))
  | @all s v hpointer hshape hoperator h ih =>
    have hcontainer : isContainer s = false := by simp [isContainer, hshape]
    by_cases hitems : s.items = []
    · exact .leaf hlinked hnumbers hpointer hitems (by simp [hshape]) (by simp [hshape])
        (by simp [Schema.Admits, hshape])
    · refine .composition hpointer hcontainer hitems fun happlies item hitem => ?_
      obtain ⟨hregular', hown', hspares'⟩ :=
        hbelow (.item hpointer hcontainer happlies hitem) hregular hown hspares
      exact ih item hitem hregular' hown' hspares' hv
  | @any s item v hpointer hshape hoperator hitem h ih =>
    have hcontainer : isContainer s = false := by simp [isContainer, hshape]
    refine .composition hpointer hcontainer (List.ne_nil_of_mem hitem)
      fun happlies other hother => ?_
    obtain ⟨hregular', hown', hspares'⟩ :=
      hbelow (.item hpointer hcontainer happlies hother) hregular hown hspares
    by_cases heq : other = item
    · subst heq
      exact ih hregular' hown' hspares' hv
    · -- The value is not null, so it is the other one of the two schemas that is.
      have hnullish := isNullish_of_ne hoperator happlies hitem hother heq fun hnullish =>
        hv (eq_null_of_isNullish h ((hregular s .refl).nullish hpointer item hitem hnullish)
          hnullish)
      exact .of_isNullish ((hregular s .refl).nullish hpointer other hother hnullish)
        (hregular' other .refl) hnullish

end

end OpenApiTypes.Transformers
