/-
What a conforming value is restored to.

* `Transformers.Revives`: dates and long integers, where they are switched on;
* `Transformers.Restores`: a tree is what a value of a schema is restored to. Nothing else than the
  leaves that a schema describes is changed;
* `Transformers.Plain`: schemas whose values say which leaves these are;
* `Transformers.exists_restores`, `Transformers.Restores.unique`: a value that conforms to a schema
  that leads to plain ones only is restored to exactly one tree.
-/
import OpenApiTypes.Proofs.Transformers.Leaf
import OpenApiTypes.Proofs.Model.Parts
import OpenApiTypes.Proofs.TypeScript.Conversion
import Mathlib.Data.List.Nodup

namespace OpenApiTypes.Transformers

open OpenApiTypes.Model
open OpenApiTypes.TypeScript (IsBigintOf Scalar Tree)
open OpenApiTypes.Config (TransformersOptions)

/-- Integers of 64 bits are written in digits, and up to `2 ^ 53` in their own. -/
def WritesIntegers (numberText : Number → String) : Prop :=
  ∀ n i, n.IsInteger i → IsLong i → ∃ j, IsBigintOf numberText n j

/-- A tree is what the value of a schema without parts is restored to. -/
inductive Revives (options : TransformersOptions) (numberText : Number → String) (s : Schema) :
    Json → Tree → Prop where
  | date (hdate : IsDate options s) (text : String) :
      Revives options numberText s (.str text) (.scalar (.date text))
  | bigint (hbigint : IsBigint options s) {n : Number} {i : Int}
      (hi : IsBigintOf numberText n i) :
      Revives options numberText s (.number n) (.scalar (.bigint i))
  | same (hdate : ¬ IsDate options s) (hbigint : ¬ IsBigint options s) (v : Json) :
      Revives options numberText s v (.ofJson v)

/-- A schema that is null and nothing else. -/
def IsNull (s : Schema) : Prop := s.pointer = none ∧ s.shape = some .null ∧ s.items = []

/-- A union of a schema with null. -/
def IsNullable (s item : Schema) : Prop :=
  s.shape = none ∧ s.operator = .or
    ∧ ∃ nothing, IsNull nothing ∧ (s.items = [item, nothing] ∨ s.items = [nothing, item])

namespace IsNullable

variable {s item : Schema}

lemma mem_items (h : IsNullable s item) : item ∈ s.items := by
  obtain ⟨-, -, nothing, -, hitems | hitems⟩ := h <;> simp [hitems]

lemma items_ne_nil (h : IsNullable s item) : s.items ≠ [] := List.ne_nil_of_mem h.mem_items

/-- Beside the schema there is null only. -/
lemma exists_null (h : IsNullable s item) :
    ∃ nothing, IsNull nothing ∧ ∀ other ∈ s.items, other = item ∨ other = nothing := by
  obtain ⟨-, -, nothing, hnothing, hitems | hitems⟩ := h <;>
    exact ⟨nothing, hnothing, fun other hother => by simp [hitems] at hother; tauto⟩

end IsNullable

/-- A tree is what the value of a schema is restored to. -/
inductive Restores (options : TransformersOptions) (numberText : Number → String)
    (catalog : Catalog) : Schema → Json → Tree → Prop where
  | component {s t : Schema} {pointer : String} {v : Json} {w : Tree}
      (hpointer : s.pointer = some pointer) (hfind : catalog.find? pointer = some t)
      (h : Restores options numberText catalog t v w) : Restores options numberText catalog s v w
  | elements {s element : Schema} {rest : List Schema} {pairs : List (Json × Tree)}
      (hpointer : s.pointer = none) (hshape : s.shape = some .array)
      (hitems : s.items = element :: rest)
      (h : ∀ x ∈ pairs, Restores options numberText catalog element x.1 x.2) :
      Restores options numberText catalog s (.arr (pairs.map Prod.fst))
        (.array (pairs.map Prod.snd))
  | members {s : Schema} {entries : List (String × Json × Tree)} (hpointer : s.pointer = none)
      (hshape : s.shape = some .object)
      (hrequired : ∀ name ∈ s.required, name ∈ entries.map Prod.fst)
      (h : ∀ property ∈ s.properties, ∀ x ∈ entries, x.1 = property.1 →
        Restores options numberText catalog property.2 x.2.1 x.2.2)
      (hother : ∀ x ∈ entries, x.1 ∉ s.properties.map Prod.fst → x.2.2 = .ofJson x.2.1) :
      Restores options numberText catalog s (.obj (entries.map fun x => (x.1, x.2.1)))
        (.record (entries.map fun x => (x.1, x.2.2)))
  | whole {s : Schema} (v : Json) (hpointer : s.pointer = none)
      (hshape : s.shape = some .tuple ∨ s.shape = some .enum
        ∨ s.shape = some .array ∧ s.items = []) :
      Restores options numberText catalog s v (.ofJson v)
  | leaf {s : Schema} {v : Json} {w : Tree} (hpointer : s.pointer = none)
      (hitems : s.items = []) (hadmits : s.Admits v) (harray : s.shape ≠ some .array)
      (hobject : s.shape ≠ some .object) (h : Revives options numberText s v w) :
      Restores options numberText catalog s v w
  | null {s item : Schema} (hpointer : s.pointer = none) (hnullable : IsNullable s item) :
      Restores options numberText catalog s .null (.scalar .null)
  | present {s item : Schema} {v : Json} {w : Tree} (hpointer : s.pointer = none)
      (hnullable : IsNullable s item) (hv : v ≠ .null)
      (h : Restores options numberText catalog item v w) :
      Restores options numberText catalog s v w

namespace Restores

variable {options : TransformersOptions} {numberText : Number → String} {catalog : Catalog}
  {s t : Schema} {v : Json} {w w' : Tree}

/-- Null stays null. -/
lemma null_eq (h : Restores options numberText catalog s v w) (hv : v = .null) :
    w = .scalar .null := by
  induction h with
  | component _ _ _ ih => exact ih hv
  | elements | members => simp at hv
  | whole v => rw [hv, Tree.ofJson]
  | leaf _ _ _ _ _ hrevives =>
    cases hrevives with
    | date | bigint => simp at hv
    | same => rw [hv, Tree.ofJson]
  | null => rfl
  | present _ _ hne => exact absurd hv hne

/-- A schema that is null has no other value. -/
lemma eq_null_of_isNull (h : Restores options numberText catalog s v w) (hs : IsNull s) :
    v = .null := by
  obtain ⟨hpointer, hshape, hitems⟩ := hs
  cases h with
  | component hp => simp [hpointer] at hp
  | elements _ h | members _ h | whole _ _ h => simp [hshape] at h
  | leaf _ _ hadmits =>
    simp only [Schema.Admits, hshape] at hadmits
    split at hadmits <;> simp_all
  | null => rfl
  | present _ hnullable => exact absurd hnullable.1 (by simp [hshape])

end Restores

/-! ### Plain schemas -/

/-- A schema whose values say which of their leaves are to be restored: it is a component, a
container, a leaf, or the union of another schema with null. -/
structure Plain (catalog : Catalog) (s : Schema) : Prop where
  resolves : ∀ {pointer}, s.pointer = some pointer → (catalog.find? pointer).isSome
  distinct : s.pointer = none → s.shape = some .object → (s.properties.map Prod.fst).Nodup
  items : s.pointer = none → s.items ≠ [] → s.shape = some .array ∨ s.shape = some .object
    ∨ s.shape = some .tuple ∨ s.shape = some .enum ∨ ∃ item, IsNullable s item

namespace Plain

variable {options : TransformersOptions} {numberText : Number → String} {catalog : Catalog}
  {s t : Schema} {v : Json} {w w' : Tree}

/-- Properties with one name are the same. -/
lemma property_eq (hs : Plain catalog s) (hpointer : s.pointer = none)
    (hshape : s.shape = some .object) {property other : String × Schema}
    (hproperty : property ∈ s.properties) (hother : other ∈ s.properties)
    (hname : property.1 = other.1) : property = other :=
  List.inj_on_of_nodup_map (hs.distinct hpointer hshape) hproperty hother hname

/-- A composition is the union of another schema with null. -/
lemma exists_isNullable (hs : Plain catalog s) (hpointer : s.pointer = none)
    (hshape : s.shape = none) (hitems : s.items ≠ []) : ∃ item, IsNullable s item := by
  rcases hs.items hpointer hitems with h | h | h | h | h
  · simp [hshape] at h
  · simp [hshape] at h
  · simp [hshape] at h
  · simp [hshape] at h
  · exact h

/-- The other schema of a union with null has every value but null. -/
lemma restores_of_isNullable {item other : Schema} (hpointer : s.pointer = none)
    (hnullable : IsNullable s item) (hother : other ∈ s.items) (hv : v ≠ .null)
    (h : Restores options numberText catalog other v w) :
    Restores options numberText catalog s v w := by
  obtain ⟨nothing, hnothing, hmem⟩ := hnullable.exists_null
  rcases hmem other hother with rfl | rfl
  · exact .present hpointer hnullable hv h
  · exact absurd (h.eq_null_of_isNull hnothing) hv

end Plain

/-- A value without parts that is of the shape of its schema is restored to something. -/
lemma exists_revives (hnumbers : WritesIntegers numberText) (hadmits : s.Admits v) :
    ∃ w, Revives options numberText s v w := by
  by_cases hdate : IsDate options s
  · obtain ⟨text, rfl⟩ : ∃ text, v = .str text := by
      simp only [Schema.Admits, hdate.2.1] at hadmits
      split at hadmits <;> simp_all
    exact ⟨_, .date hdate text⟩
  by_cases hbigint : IsBigint options s
  · obtain ⟨n, i, rfl, hn, hi⟩ : ∃ n i, v = .number n ∧ n.IsInteger i ∧ IsLong i := by
      simp only [Schema.Admits, hbigint.2.1] at hadmits
      split at hadmits <;> simp_all [hbigint.2.2]
    obtain ⟨j, hj⟩ := hnumbers n i hn hi
    exact ⟨_, .bigint hbigint hj⟩
  exact ⟨_, .same hdate hbigint v⟩

/-- An array is restored to something if its elements are. -/
lemma exists_restores_array {element : Schema} {rest : List Schema} {values : List Json}
    (hpointer : s.pointer = none) (hshape : s.shape = some .array)
    (hitems : s.items = element :: rest)
    (h : ∀ v ∈ values, ∃ w, Restores options numberText catalog element v w) :
    ∃ w, Restores options numberText catalog s (.arr values) w := by
  choose! f hf using h
  let pairs := values.map fun v => (v, f v)
  have hpairs : Restores options numberText catalog s (.arr (pairs.map Prod.fst))
      (.array (pairs.map Prod.snd)) :=
    .elements hpointer hshape hitems (List.forall_mem_map.mpr hf)
  simp only [pairs, List.map_map, Function.comp_def, List.map_id'] at hpairs
  exact ⟨_, hpairs⟩

/-- An object is restored to something if its members with a property are. -/
lemma exists_restores_object {members : List (String × Json)} (hs : Plain catalog s)
    (hpointer : s.pointer = none) (hshape : s.shape = some .object)
    (hrequired : ∀ name ∈ s.required, name ∈ members.map Prod.fst)
    (h : ∀ property ∈ s.properties, ∀ x ∈ members, x.1 = property.1 →
      ∃ w, Restores options numberText catalog property.2 x.2 w) :
    ∃ w, Restores options numberText catalog s (.obj members) w := by
  have hmembers : ∀ x ∈ members, ∃ w, (∀ property ∈ s.properties, x.1 = property.1 →
      Restores options numberText catalog property.2 x.2 w)
        ∧ (x.1 ∉ s.properties.map Prod.fst → w = .ofJson x.2) := by
    intro x hx
    by_cases hname : x.1 ∈ s.properties.map Prod.fst
    · obtain ⟨property, hproperty, heq⟩ := List.mem_map.mp hname
      obtain ⟨w, hw⟩ := h property hproperty x hx heq.symm
      refine ⟨w, fun other hother hothername => ?_, fun h => absurd hname h⟩
      obtain rfl := hs.property_eq hpointer hshape hproperty hother (heq.trans hothername)
      exact hw
    · exact ⟨_, fun property hproperty heq =>
        absurd (heq ▸ List.mem_map_of_mem hproperty) hname, fun _ => rfl⟩
  choose! f hdeclared hother using hmembers
  let entries := members.map fun x => (x.1, x.2, f x)
  have hentries : Restores options numberText catalog s
      (.obj (entries.map fun x => (x.1, x.2.1))) (.record (entries.map fun x => (x.1, x.2.2))) :=
    .members hpointer hshape (by simpa [entries] using hrequired)
      (fun property hproperty => List.forall_mem_map.mpr fun x hx =>
        hdeclared x hx property hproperty)
      (List.forall_mem_map.mpr hother)
  simp only [entries, List.map_map, Function.comp_def, List.map_id'] at hentries
  exact ⟨_, hentries⟩

/-- A value that conforms to a schema is restored to something. -/
lemma exists_restores (hnumbers : WritesIntegers numberText) (h : Conforms catalog s v)
    (hplain : ∀ t, s.Reaches catalog t → Plain catalog t) :
    ∃ w, Restores options numberText catalog s v w := by
  induction h with
  | component hpointer hfind _ ih =>
    obtain ⟨w, hw⟩ := ih ((Schema.Leads.component hpointer hfind).forall_reaches hplain)
    exact ⟨w, .component hpointer hfind hw⟩
  | @array s values hpointer hshape _ ih =>
    cases hitems : s.items with
    | nil => exact ⟨_, .whole _ hpointer (.inr (.inr ⟨hshape, hitems⟩))⟩
    | cons element rest =>
      have hpart : s.Leads catalog element := .item (by simp [hitems])
      exact exists_restores_array hpointer hshape hitems fun v hv =>
        ih element (by simp [hitems]) v hv (hpart.forall_reaches hplain)
  | @object s members hpointer hshape hrequired _ ih =>
    refine exists_restores_object (hplain s .refl) hpointer hshape hrequired
      fun property hproperty x hx heq => ?_
    have hpart : s.Leads catalog property.2 := .property hproperty
    exact ih property hproperty x hx heq (hpart.forall_reaches hplain)
  | @leaf s v hpointer harray hobject hitems hadmits =>
    by_cases htuple : s.shape = some .tuple
    · exact ⟨_, .whole v hpointer (.inl htuple)⟩
    by_cases henum : s.shape = some .enum
    · exact ⟨_, .whole v hpointer (.inr (.inl henum))⟩
    have hnone : s.items = [] := by
      by_contra hne
      rcases (hplain s .refl).items hpointer hne with h | h | h | h | ⟨item, hnullable⟩
      · exact harray h
      · exact hobject h
      · exact htuple h
      · exact henum h
      · exact hne (hitems hnullable.1)
    obtain ⟨w, hw⟩ : ∃ w, Revives options numberText s v w := exists_revives hnumbers hadmits
    exact ⟨w, .leaf hpointer hnone hadmits harray hobject hw⟩
  | @all s v hpointer hshape hoperator h ih =>
    have hnone : s.items = [] := by
      by_contra hne
      obtain ⟨item, -, hor, -⟩ := (hplain s .refl).exists_isNullable hpointer hshape hne
      simp [hoperator] at hor
    have hadmits : s.Admits v := by simp [Schema.Admits, hshape]
    obtain ⟨w, hw⟩ : ∃ w, Revives options numberText s v w := exists_revives hnumbers hadmits
    exact ⟨w, .leaf hpointer hnone hadmits (by simp [hshape]) (by simp [hshape]) hw⟩
  | @any s item v hpointer hshape hoperator hitem h ih =>
    obtain ⟨other, hnullable⟩ := (hplain s .refl).exists_isNullable hpointer hshape
      (List.ne_nil_of_mem hitem)
    by_cases hv : v = .null
    · subst hv
      exact ⟨_, .null hpointer hnullable⟩
    have hpart : s.Leads catalog item := .item hitem
    obtain ⟨w, hw⟩ := ih (hpart.forall_reaches hplain)
    exact ⟨w, Plain.restores_of_isNullable hpointer hnullable hitem hv hw⟩

/-- Nothing is revived in a value that a schema describes as a whole. -/
lemma Revives.eq_ofJson (h : Revives options numberText s v w)
    (hshape : s.shape = some .tuple ∨ s.shape = some .enum ∨ s.shape = some .array ∧ s.items = []) :
    w = .ofJson v := by
  cases h with
  | date hdate => simp [hdate.2.1] at hshape
  | bigint hbigint => simp [hbigint.2.1] at hshape
  | same => rfl

lemma Revives.unique (h : Revives options numberText s v w)
    (h' : Revives options numberText s v w') :
    w = w' := by
  cases h with
  | date hdate =>
    cases h' with
    | date => rfl
    | same hno => exact absurd hdate hno
  | bigint hbigint hi =>
    cases h' with
    | bigint _ hi' => rw [hi.unique hi']
    | same _ hno => exact absurd hbigint hno
  | same hdate hbigint =>
    cases h' with
    | date hyes => exact absurd hyes hdate
    | bigint hyes => exact absurd hyes hbigint
    | same => rfl

/-- Lists are the same if their elements are determined by what a function gives for them. -/
lemma eq_of_map_eq {α β : Type} {f : α → β} {l l' : List α} (hmap : l.map f = l'.map f)
    (h : ∀ x ∈ l, ∀ y ∈ l', f x = f y → x = y) : l = l' := by
  induction l generalizing l' with
  | nil => simpa using hmap
  | cons x l ih =>
    cases l' with
    | nil => simp at hmap
    | cons y l' =>
      obtain ⟨hhead, htail⟩ := List.cons.inj hmap
      obtain rfl := h x (by simp) y (by simp) hhead
      rw [ih htail fun a ha b hb => h a (by simp [ha]) b (by simp [hb])]

/-- A value is restored to at most one tree. -/
lemma Restores.unique (hplain : ∀ t, s.Reaches catalog t → Plain catalog t)
    (h : Restores options numberText catalog s v w)
    (h' : Restores options numberText catalog s v w') : w = w' := by
  induction h generalizing w' with
  | component hpointer hfind _ ih =>
    cases h' with
    | component hpointer' hfind' h' =>
      obtain rfl := Option.some.inj (hpointer.symm.trans hpointer')
      obtain rfl := Option.some.inj (hfind.symm.trans hfind')
      exact ih ((Schema.Leads.component hpointer hfind).forall_reaches hplain) h'
    | elements hp | members hp | whole _ hp | leaf hp | null hp | present hp =>
      simp [hpointer] at hp
  | @elements s element rest pairs hpointer hshape hitems h ih =>
    generalize hv : Json.arr (pairs.map Prod.fst) = v at h'
    cases h' with
    | component hp => simp [hpointer] at hp
    | @elements _ element' rest' pairs' _ _ hitems' h' =>
      obtain ⟨rfl, rfl⟩ := List.cons.inj (hitems.symm.trans hitems')
      have hpart : s.Leads catalog element := .item (by simp [hitems])
      obtain rfl := eq_of_map_eq (Json.arr.inj hv) fun x hx y hy hxy =>
        Prod.ext hxy (ih x hx (hpart.forall_reaches hplain) (hxy ▸ h' y hy))
      rfl
    | members | null => simp at hv
    | whole _ _ hs => simp [hshape, hitems] at hs
    | leaf _ _ _ harray => exact absurd hshape harray
    | present _ hnullable => exact absurd hnullable.1 (by simp [hshape])
  | @members s entries hpointer hshape hrequired h hother ih =>
    generalize hv : Json.obj (entries.map fun x => (x.1, x.2.1)) = v at h'
    cases h' with
    | component hp => simp [hpointer] at hp
    | @members _ entries' _ _ _ h' hother' =>
      obtain rfl := eq_of_map_eq (Json.obj.inj hv) fun x hx y hy hxy => by
        obtain ⟨name, value, tree⟩ := x
        obtain ⟨name', value', tree'⟩ := y
        obtain ⟨rfl, rfl⟩ := Prod.mk.inj hxy
        suffices htree : tree = tree' by rw [htree]
        by_cases hname : name ∈ s.properties.map Prod.fst
        · obtain ⟨property, hproperty, heq⟩ := List.mem_map.mp hname
          have hpart : s.Leads catalog property.2 := .property hproperty
          exact ih property hproperty _ hx heq.symm (hpart.forall_reaches hplain)
            (h' property hproperty _ hy heq.symm)
        · exact (hother _ hx hname).trans (hother' _ hy hname).symm
      rfl
    | elements | null => simp at hv
    | whole _ _ hs => simp [hshape] at hs
    | leaf _ _ _ _ hobject => exact absurd hshape hobject
    | present _ hnullable => exact absurd hnullable.1 (by simp [hshape])
  | whole v hpointer hshape =>
    cases h' with
    | component hp => simp [hpointer] at hp
    | elements _ hs hitems => simp [hs, hitems] at hshape
    | members _ hs => simp [hs] at hshape
    | whole => rfl
    | leaf _ _ _ _ _ hrevives => exact (hrevives.eq_ofJson hshape).symm
    | null _ hnullable | present _ hnullable => simp [hnullable.1] at hshape
  | leaf hpointer hitems hadmits harray hobject hrevives =>
    cases h' with
    | component hp => simp [hpointer] at hp
    | elements _ hs => exact absurd hs harray
    | members _ hs => exact absurd hs hobject
    | whole _ _ hshape => exact hrevives.eq_ofJson hshape
    | leaf _ _ _ _ _ hrevives' => exact hrevives.unique hrevives'
    | null _ hnullable | present _ hnullable => exact absurd hitems hnullable.items_ne_nil
  | null hpointer hnullable => exact (h'.null_eq rfl).symm
  | @present s item v w hpointer hnullable hv h ih =>
    have hpart : s.Leads catalog item := .item hnullable.mem_items
    cases h' with
    | component hp => simp [hpointer] at hp
    | elements _ hs | members _ hs | whole _ _ hs => simp [hnullable.1] at hs
    | leaf _ hitems => exact absurd hitems hnullable.items_ne_nil
    | null => exact absurd rfl hv
    | @present _ item' _ _ _ hnullable' _ h' =>
      obtain ⟨nothing, hnothing, hmem⟩ := hnullable.exists_null
      rcases hmem item' hnullable'.mem_items with rfl | rfl
      · exact ih (hpart.forall_reaches hplain) h'
      · exact absurd (h'.eq_null_of_isNull hnothing) hv

end OpenApiTypes.Transformers
