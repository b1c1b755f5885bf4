/-
What statements change, by position.

* `Transformers.LeafAt`: the leaves of a schema for which statements are made, by their paths in its
  values;
* `Transformers.Converted`: a value has become a tree in which every text that such a leaf describes
  as a date is one, and every number that it describes as a long integer;
* `Transformers.Converted.mono`: it stays so while the tree becomes others;
* `Transformers.Converted.of_blank`: for a blank schema there is nothing to change.
-/
import OpenApiTypes.Proofs.Transformers.Linking
import OpenApiTypes.Proofs.TypeScript.Conversion

namespace OpenApiTypes.Transformers

open OpenApiTypes.Model
open OpenApiTypes.TypeScript (IsBigintOf Step Tree)
open OpenApiTypes.Config (TransformersOptions)

variable {options : TransformersOptions} {numberText : Number → String} {api : Api}
  {catalog : Catalog} {s t l : Schema} {v : Json} {u w : Tree} {path : List Step}

/-- A schema leads to a leaf at a path in its values, on the way of its statements. -/
inductive LeafAt (catalog : Catalog) : Schema → List Step → Schema → Prop where
  | leaf {s : Schema} (hpointer : s.pointer = none) (hshape : isContainer s = false)
      (hitems : s.items = []) : LeafAt catalog s [] s
  | component {s t l : Schema} {pointer : String} {path : List Step}
      (hpointer : s.pointer = some pointer) (hfind : catalog.find? pointer = some t)
      (h : LeafAt catalog t path l) : LeafAt catalog s path l
  | element {s t l : Schema} {rest : List Schema} {path : List Step} (index : Nat)
      (hpointer : s.pointer = none) (hshape : s.shape = some .array) (hitems : s.items = t :: rest)
      (h : LeafAt catalog t path l) : LeafAt catalog s (.element index :: path) l
  | property {s l : Schema} {property : String × Schema} {path : List Step}
      (hpointer : s.pointer = none) (hshape : s.shape = some .object)
      (hproperty : property ∈ s.properties) (h : LeafAt catalog property.2 path l) :
      LeafAt catalog s (.member property.1 :: path) l
  | item {s t l : Schema} {path : List Step} (hpointer : s.pointer = none)
      (hshape : isContainer s = false) (happlies : appliesItems s = true) (hitem : t ∈ s.items)
      (h : LeafAt catalog t path l) : LeafAt catalog s path l

namespace LeafAt

variable (h : LeafAt catalog s path l)
include h

lemma of_pointer {pointer : String} (hpointer : s.pointer = some pointer)
    (hfind : catalog.find? pointer = some t) : LeafAt catalog t path l := by
  cases h with
  | component hp hfind' hl =>
    obtain rfl := Option.some.inj (hpointer.symm.trans hp)
    obtain rfl := Option.some.inj (hfind.symm.trans hfind')
    exact hl
  | leaf hp | element _ hp | property hp | item hp => simp [hpointer] at hp

variable (hpointer : s.pointer = none)
include hpointer

lemma of_array (hshape : s.shape = some .array) : ∃ element rest index inner,
    s.items = element :: rest ∧ path = .element index :: inner
      ∧ LeafAt catalog element inner l := by
  cases h with
  | component hp => simp [hpointer] at hp
  | element index _ _ hitems hl => exact ⟨_, _, index, _, hitems, rfl, hl⟩
  | property _ hs => simp [hshape] at hs
  | leaf _ hs | item _ hs => simp [isContainer, hshape] at hs

lemma of_object (hshape : s.shape = some .object) : ∃ property ∈ s.properties, ∃ inner,
    path = .member property.1 :: inner ∧ LeafAt catalog property.2 inner l := by
  cases h with
  | component hp => simp [hpointer] at hp
  | property _ _ hproperty hl => exact ⟨_, hproperty, _, rfl, hl⟩
  | element _ _ hs => simp [hshape] at hs
  | leaf _ hs | item _ hs => simp [isContainer, hshape] at hs

lemma not_fixed (hshape : s.shape = some .tuple ∨ s.shape = some .enum) : False := by
  cases h with
  | component hp => simp [hpointer] at hp
  | element _ _ hs | property _ hs => simp [hs] at hshape
  | leaf _ hs | item _ hs => rcases hshape with hshape | hshape <;> simp [isContainer, hshape] at hs

lemma of_leaf (hitems : s.items = []) (hobject : s.shape ≠ some .object) : path = [] ∧ l = s := by
  cases h with
  | component hp => simp [hpointer] at hp
  | leaf => exact ⟨rfl, rfl⟩
  | element _ _ _ hitems' => simp [hitems] at hitems'
  | property _ hs => exact absurd hs hobject
  | item _ _ _ hitem => simp [hitems] at hitem

lemma of_composition (hshape : isContainer s = false) (hitems : s.items ≠ []) :
    appliesItems s = true ∧ ∃ item ∈ s.items, LeafAt catalog item path l := by
  cases h with
  | component hp => simp [hpointer] at hp
  | leaf _ _ hno => exact absurd hno hitems
  | element _ _ hs | property _ hs => simp [isContainer, hs] at hshape
  | item _ _ happlies hitem hl => exact ⟨happlies, _, hitem, hl⟩

end LeafAt

/-- A blank schema leads to no leaf that is to be restored. -/
lemma LeafAt.of_blank (hsame : Unambiguous options api) (h : LeafAt api.catalog s path l)
    (hblank : Blank options api False s) : ¬ IsDate options l ∧ ¬ IsBigint options l := by
  induction h with
  | leaf hpointer _ hitems => exact hblank.of_leaf hpointer hitems
  | component hpointer hfind _ ih => exact ih (hblank.of_component hsame hpointer hfind)
  | element _ hpointer hshape hitems _ ih =>
    exact ih (hblank.follows hsame (.element hpointer hshape hitems))
  | property hpointer hshape hproperty _ ih =>
    exact ih (hblank.follows hsame (.property hpointer hshape hproperty))
  | item hpointer hshape happlies hitem _ ih =>
    exact ih (hblank.follows hsame (.item hpointer hshape happlies hitem))

/-- A tree is what a value has become when its leaves are restored as a schema describes them. -/
structure Converted (options : TransformersOptions) (numberText : Number → String)
    (catalog : Catalog) (s : Schema) (v : Json) (w : Tree) : Prop where
  date : ∀ {path l text}, LeafAt catalog s path l → IsDate options l →
    (Tree.ofJson v).at? path = some (.scalar (.string text)) →
    w.at? path = some (.scalar (.date text))
  bigint : ∀ {path l n}, LeafAt catalog s path l → IsBigint options l →
    (Tree.ofJson v).at? path = some (.scalar (.number n)) →
    ∃ i, IsBigintOf numberText n i ∧ w.at? path = some (.scalar (.bigint i))

namespace Converted

/-- What is restored stays so. -/
lemma mono (h : Converted options numberText catalog s v u) (hbecomes : u.Becomes numberText w) :
    Converted options numberText catalog s v w where
  date := fun hleaf hdate hv => by
    obtain ⟨y, hy, hbecomes⟩ := hbecomes.exists_at? (h.date hleaf hdate hv)
    cases hbecomes
    exact hy
  bigint := fun hleaf hbigint hv => by
    obtain ⟨i, hi, hthere⟩ := h.bigint hleaf hbigint hv
    obtain ⟨y, hy, hbecomes⟩ := hbecomes.exists_at? hthere
    cases hbecomes
    exact ⟨i, hi, hy⟩

lemma of_not_leafAt (h : ∀ {path l}, LeafAt catalog s path l →
      ¬ IsDate options l ∧ ¬ IsBigint options l) :
    Converted options numberText catalog s v w where
  date := fun hleaf hdate => absurd hdate (h hleaf).1
  bigint := fun hleaf hbigint => absurd hbigint (h hleaf).2

/-- In null there is nothing to restore. -/
lemma null : Converted options numberText catalog s .null w where
  date := by
    intro path l text _ _ hv
    cases path <;> simp [Tree.ofJson, Tree.at?] at hv
  bigint := by
    intro path l n _ _ hv
    cases path <;> simp [Tree.ofJson, Tree.at?] at hv

/-- What a leaf is restored to. -/
lemma leaf (hpointer : s.pointer = none) (hitems : s.items = []) (hobject : s.shape ≠ some .object)
    (h : Revives options numberText s v w) : Converted options numberText catalog s v w where
  date := by
    intro path l text hleaf hdate hv
    obtain ⟨rfl, rfl⟩ := hleaf.of_leaf hpointer hitems hobject
    cases h with
    | date _ text' =>
      obtain rfl : text' = text := by simpa [Tree.ofJson] using hv
      simp
    | bigint hbigint => exact absurd (hdate.2.1.symm.trans hbigint.2.1) (by simp)
    | same hno => exact absurd hdate hno
  bigint := by
    intro path l n hleaf hbigint hv
    obtain ⟨rfl, rfl⟩ := hleaf.of_leaf hpointer hitems hobject
    cases h with
    | date hdate => exact absurd (hdate.2.1.symm.trans hbigint.2.1) (by simp)
    | @bigint _ n' i hi =>
      obtain rfl : n' = n := by simpa [Tree.ofJson] using hv
      exact ⟨i, hi, by simp⟩
    | same _ hno => exact absurd hbigint hno

lemma component {pointer : String} (hpointer : s.pointer = some pointer)
    (hfind : catalog.find? pointer = some t) (h : Converted options numberText catalog t v w) :
    Converted options numberText catalog s v w where
  date := fun hleaf => h.date (hleaf.of_pointer hpointer hfind)
  bigint := fun hleaf => h.bigint (hleaf.of_pointer hpointer hfind)

lemma elements {element : Schema} {rest : List Schema} {pairs : List (Json × Tree)}
    (hpointer : s.pointer = none) (hshape : s.shape = some .array)
    (hitems : s.items = element :: rest)
    (h : ∀ x ∈ pairs, Converted options numberText catalog element x.1 x.2) :
    Converted options numberText catalog s (.arr (pairs.map Prod.fst))
      (.array (pairs.map Prod.snd)) := by
  -- An element of the value stands at the same index as what it has become.
  have hpart : ∀ {path l x}, LeafAt catalog s path l →
      (Tree.ofJson (.arr (pairs.map Prod.fst))).at? path = some x → ∃ pair ∈ pairs, ∃ inner,
        LeafAt catalog element inner l ∧ (Tree.ofJson pair.1).at? inner = some x
          ∧ (Tree.array (pairs.map Prod.snd)).at? path = pair.2.at? inner := by
    intro path l x hleaf hx
    obtain ⟨_, _, index, inner, hitems', rfl, hl⟩ := hleaf.of_array hpointer hshape
    obtain ⟨rfl, rfl⟩ := List.cons.inj (hitems.symm.trans hitems')
    simp only [Tree.ofJson, Tree.ofItems_eq, Tree.at?_element, List.getElem?_map,
      Option.bind_map] at hx ⊢
    obtain ⟨pair, hpair, hx⟩ := Option.bind_eq_some_iff.mp hx
    exact ⟨pair, List.mem_of_getElem? hpair, inner, hl, by simpa using hx, by rw [hpair]; rfl⟩
  constructor
  · intro path l text hleaf hdate hx
    obtain ⟨pair, hpair, inner, hl, hx, heq⟩ := hpart hleaf hx
    rw [heq]
    exact (h pair hpair).date hl hdate hx
  · intro path l n hleaf hbigint hx
    obtain ⟨pair, hpair, inner, hl, hx, heq⟩ := hpart hleaf hx
    rw [heq]
    exact (h pair hpair).bigint hl hbigint hx

lemma members {entries : List (String × Json × Tree)} (hpointer : s.pointer = none)
    (hshape : s.shape = some .object)
    (h : ∀ property ∈ s.properties, ∀ x ∈ entries, x.1 = property.1 →
      Converted options numberText catalog property.2 x.2.1 x.2.2) :
    Converted options numberText catalog s (.obj (entries.map fun x => (x.1, x.2.1)))
      (.record (entries.map fun x => (x.1, x.2.2))) := by
  have hpart : ∀ {path l x}, LeafAt catalog s path l →
      (Tree.ofJson (.obj (entries.map fun x => (x.1, x.2.1)))).at? path = some x →
      ∃ property ∈ s.properties, ∃ entry ∈ entries, entry.1 = property.1 ∧ ∃ inner,
        LeafAt catalog property.2 inner l ∧ (Tree.ofJson entry.2.1).at? inner = some x
          ∧ (Tree.record (entries.map fun x => (x.1, x.2.2))).at? path
            = entry.2.2.at? inner := by
    intro path l x hleaf hx
    obtain ⟨property, hproperty, inner, rfl, hl⟩ := hleaf.of_object hpointer hshape
    have hget {α : Type} (f : Json × Tree → α) :
        Entries.get? (entries.map fun x => (x.1, f x.2)) property.1
          = (Entries.get? entries property.1).map f := Entries.get?_mapValues f entries property.1
    simp only [Tree.ofJson, Tree.ofMembers_eq, Tree.at?_member, List.map_map, Function.comp_def,
      hget fun x => Tree.ofJson x.1, hget Prod.snd, Option.bind_map] at hx ⊢
    obtain ⟨pair, hpair, hx⟩ := Option.bind_eq_some_iff.mp hx
    exact ⟨property, hproperty, (property.1, pair), Entries.mem_of_get? hpair, rfl, inner, hl,
      by simpa using hx, by rw [hpair]; rfl⟩
  constructor
  · intro path l text hleaf hdate hx
    obtain ⟨property, hproperty, entry, hentry, hname, inner, hl, hx, heq⟩ := hpart hleaf hx
    rw [heq]
    exact (h property hproperty entry hentry hname).date hl hdate hx
  · intro path l n hleaf hbigint hx
    obtain ⟨property, hproperty, entry, hentry, hname, inner, hl, hx, heq⟩ := hpart hleaf hx
    rw [heq]
    exact (h property hproperty entry hentry hname).bigint hl hbigint hx

lemma composition (hpointer : s.pointer = none) (hshape : isContainer s = false)
    (hitems : s.items ≠ [])
    (h : ∀ item ∈ s.items, Converted options numberText catalog item v w) :
    Converted options numberText catalog s v w where
  date := fun hleaf hdate hx => by
    obtain ⟨-, item, hitem, hl⟩ := hleaf.of_composition hpointer hshape hitems
    exact (h item hitem).date hl hdate hx
  bigint := fun hleaf hbigint hx => by
    obtain ⟨-, item, hitem, hl⟩ := hleaf.of_composition hpointer hshape hitems
    exact (h item hitem).bigint hl hbigint hx

/-- For a blank schema there is nothing to restore. -/
lemma of_blank (hsame : Unambiguous options api) (hblank : Blank options api False s) :
    Converted options numberText api.catalog s v w :=
  of_not_leafAt fun hleaf => hleaf.of_blank hsame hblank

end Converted

end OpenApiTypes.Transformers
