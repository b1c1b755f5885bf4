/-
Values as trees, and how a heap represents them.

* `TypeScript.Tree`: values by their parts, as `TypeScript.Tree.ofJson` gives them;
* `TypeScript.Rep`: a value and the cells of a set represent a tree. No two parts of it share a
  cell;
* `TypeScript.Rep.of_keeps`: they do so as long as these cells are kept;
* `TypeScript.Slots`: the parts of a tree at one address; `TypeScript.Slots.update` puts another
  one in the place of one of them.
-/
import OpenApiTypes.Json.Value
import OpenApiTypes.Proofs.TypeScript.Places
import Mathlib.Data.Set.BooleanAlgebra
import Mathlib.Order.CompletePartialOrder

namespace OpenApiTypes.TypeScript

/-! ### Trees -/

/-- A value by its parts. -/
inductive Tree where
  | scalar (value : Scalar)
  | array (elements : List Tree)
  | record (members : List (String × Tree))
deriving Repr

namespace Tree

instance : Inhabited Tree := ⟨scalar .null⟩

mutual

/-- The tree of a JSON value. -/
def ofJson : Json → Tree
  | .null => scalar .null
  | .bool b => scalar (.bool b)
  | .number n => scalar (.number n)
  | .str s => scalar (.string s)
  | .arr items => array (ofItems items)
  | .obj members => record (ofMembers members)

/-- The trees of JSON values. -/
def ofItems : List Json → List Tree
  | [] => []
  | v :: rest => ofJson v :: ofItems rest

/-- The trees of the members of an object. -/
def ofMembers : List (String × Json) → List (String × Tree)
  | [] => []
  | (name, v) :: rest => (name, ofJson v) :: ofMembers rest

end

@[simp] lemma ofItems_eq (items : List Json) : ofItems items = items.map ofJson := by
  induction items with
  | nil => rfl
  | cons v rest ih => simp [ofItems, ih]

@[simp] lemma ofMembers_eq (members : List (String × Json)) :
    ofMembers members = members.map fun x => (x.1, ofJson x.2) := by
  induction members with
  | nil => rfl
  | cons x rest ih => simp [ofMembers, ih]

@[simp] lemma ofJson_eq_null_iff {v : Json} : ofJson v = scalar .null ↔ v = .null := by
  cases v <;> simp [ofJson]

end Tree

/-! ### Representation -/

/-- A part of a tree: its value and its cells. -/
structure Slot where
  value : Value
  tree : Tree
  cells : Set Nat

/-- The cells of a tree whose parts are those of some keys. -/
def footprint {ι : Type} (address : Nat) (keys : List ι) (f : ι → Slot) : Set Nat :=
  {b | b = address ∨ ∃ k ∈ keys, b ∈ (f k).cells}

/-- A value represents a tree by the cells of a set. -/
inductive Rep (h : Heap) : Value → Tree → Set Nat → Prop where
  | scalar (x : Scalar) : Rep h (.scalar x) (.scalar x) ∅
  | array {address count : Nat} {f : Nat → Slot}
      (hcell : h[address]? = some (.array ((List.range count).map fun i => (f i).value)))
      (hreps : ∀ i ∈ List.range count, Rep h (f i).value (f i).tree (f i).cells)
      (hdisjoint : ∀ i ∈ List.range count, ∀ j ∈ List.range count, i ≠ j →
        Disjoint (f i).cells (f j).cells)
      (hroot : ∀ i ∈ List.range count, address ∉ (f i).cells) :
      Rep h (.object address) (.array ((List.range count).map fun i => (f i).tree))
        (footprint address (List.range count) f)
  | record {address : Nat} {names : List String} {f : String → Slot} (hnames : names.Nodup)
      (hcell : h[address]? = some (.record (names.map fun n => (n, (f n).value))))
      (hreps : ∀ n ∈ names, Rep h (f n).value (f n).tree (f n).cells)
      (hdisjoint : ∀ m ∈ names, ∀ n ∈ names, m ≠ n → Disjoint (f m).cells (f n).cells)
      (hroot : ∀ n ∈ names, address ∉ (f n).cells) :
      Rep h (.object address) (.record (names.map fun n => (n, (f n).tree)))
        (footprint address names f)

/-- The parts of a tree, by keys: they are represented, and they share no cell. -/
structure Slots {ι : Type} (h : Heap) (address : Nat) (keys : List ι) (f : ι → Slot) : Prop where
  reps : ∀ k ∈ keys, Rep h (f k).value (f k).tree (f k).cells
  disjoint : ∀ k ∈ keys, ∀ l ∈ keys, k ≠ l → Disjoint (f k).cells (f l).cells
  root : ∀ k ∈ keys, address ∉ (f k).cells

namespace Rep

variable {h h' : Heap} {v : Value} {t : Tree} {F : Set Nat} {σ σ' : State}

/-- The cells of a tree lie in the heap. -/
lemma lt_length (hrep : Rep h v t F) {b : Nat} (hb : b ∈ F) : b < h.length := by
  induction hrep with
  | scalar => exact absurd hb (Set.notMem_empty b)
  | array hcell _ _ _ ih | record _ hcell _ _ _ ih =>
    rcases hb with rfl | ⟨k, hk, hb⟩
    · exact (List.getElem?_eq_some_iff.mp hcell).1
    · exact ih k hk hb

/-- A tree is represented as long as its cells stay the same. -/
lemma of_cells (hrep : Rep h v t F)
    (hcells : ∀ {b c}, b ∈ F → h[b]? = some c → h'[b]? = some c) : Rep h' v t F := by
  induction hrep with
  | scalar x => exact .scalar x
  | array hcell _ hdisjoint hroot ih =>
    exact .array (hcells (.inl rfl) hcell)
      (fun i hi => ih i hi fun hb => hcells (.inr ⟨i, hi, hb⟩)) hdisjoint hroot
  | record hnames hcell _ hdisjoint hroot ih =>
    exact .record hnames (hcells (.inl rfl) hcell)
      (fun n hn => ih n hn fun hb => hcells (.inr ⟨n, hn, hb⟩)) hdisjoint hroot

lemma of_keeps (hrep : Rep σ.heap v t F) {F' : Set Nat} (hkeeps : Keeps F' σ σ')
    (hF : Disjoint F F') : Rep σ'.heap v t F :=
  hrep.of_cells fun hb => hkeeps.cells fun hb' => Set.disjoint_left.mp hF hb hb'

/-- What a record lacks represents no tree. -/
lemma ne_missing (hrep : Rep h v t F) (name : String) : v ≠ .missing name := by
  unfold Value.missing
  cases hrep <;> split_ifs <;> simp

lemma scalar_iff {x : Scalar} : Rep h v (.scalar x) F ↔ v = .scalar x ∧ F = ∅ := by
  constructor
  · intro hrep
    cases hrep
    exact ⟨rfl, rfl⟩
  · rintro ⟨rfl, rfl⟩
    exact .scalar x

/-- A value that represents a list of trees is the address of an array. -/
lemma exists_slots_of_array {trees : List Tree} (hrep : Rep h v (.array trees) F) :
    ∃ (address : Nat) (f : Nat → Slot), v = .object address
      ∧ h[address]? = some (.array ((List.range trees.length).map fun i => (f i).value))
      ∧ (trees = (List.range trees.length).map fun i => (f i).tree)
      ∧ Slots h address (List.range trees.length) f
      ∧ F = footprint address (List.range trees.length) f := by
  cases hrep with
  | @array address count f hcell hreps hdisjoint hroot =>
    simp only [List.length_map, List.length_range]
    exact ⟨address, f, rfl, hcell, rfl, ⟨hreps, hdisjoint, hroot⟩, rfl⟩

/-- A value that represents members is the address of a record. -/
lemma exists_slots_of_record {members : List (String × Tree)} (hrep : Rep h v (.record members) F) :
    ∃ (address : Nat) (f : String → Slot), v = .object address ∧ (members.map Prod.fst).Nodup
      ∧ h[address]? = some (.record ((members.map Prod.fst).map fun n => (n, (f n).value)))
      ∧ (∀ x ∈ members, (f x.1).tree = x.2)
      ∧ Slots h address (members.map Prod.fst) f
      ∧ F = footprint address (members.map Prod.fst) f := by
  cases hrep with
  | @record address names f hnames hcell hreps hdisjoint hroot =>
    have hkeys : (names.map fun n => (n, (f n).tree)).map Prod.fst = names := by
      simp [Function.comp_def]
    rw [hkeys]
    exact ⟨address, f, rfl, hnames, hcell, by simp, ⟨hreps, hdisjoint, hroot⟩, rfl⟩

end Rep

namespace Slots

variable {ι : Type} {h h' : Heap} {address : Nat} {keys : List ι} {f : ι → Slot}

lemma array {count : Nat} {f : Nat → Slot} (hs : Slots h address (List.range count) f)
    (hcell : h[address]? = some (.array ((List.range count).map fun i => (f i).value))) :
    Rep h (.object address) (.array ((List.range count).map fun i => (f i).tree))
      (footprint address (List.range count) f) :=
  .array hcell hs.reps hs.disjoint hs.root

lemma record {names : List String} {f : String → Slot} (hs : Slots h address names f)
    (hnames : names.Nodup)
    (hcell : h[address]? = some (.record (names.map fun n => (n, (f n).value)))) :
    Rep h (.object address) (.record (names.map fun n => (n, (f n).tree)))
      (footprint address names f) :=
  .record hnames hcell hs.reps hs.disjoint hs.root

/-- A new array of the values of all parts. -/
lemma newArray {σ : State} {count : Nat} {f : Nat → Slot}
    (hs : Slots σ.heap address (List.range count) f) :
    Rep (σ.newArray ((List.range count).map fun i => (f i).value)).2.heap
      (.object σ.heap.length) (.array ((List.range count).map fun i => (f i).tree))
      (footprint σ.heap.length (List.range count) f) := by
  refine .array (by simp [State.newArray]) (fun i hi => ?_) hs.disjoint fun i hi hmem => ?_
  · exact (hs.reps i hi).of_keeps (.newArray ∅ _ _) (Set.disjoint_empty _)
  · exact absurd ((hs.reps i hi).lt_length hmem) (lt_irrefl _)

/-- Another part in the place of one. Its cells are those of the old one, or new. -/
lemma update [DecidableEq ι] (hs : Slots h address keys f) (haddress : address < h.length) {k : ι}
    (hk : k ∈ keys) {slot : Slot} (hrep : Rep h' slot.value slot.tree slot.cells)
    (hnew : ∀ b ∈ slot.cells, b ∈ (f k).cells ∨ h.length ≤ b)
    (hcells : ∀ {b c}, b ∉ (f k).cells → b ≠ address → h[b]? = some c → h'[b]? = some c) :
    Slots h' address keys (Function.update f k slot) := by
  have hdisjoint : ∀ l ∈ keys, l ≠ k → Disjoint slot.cells (f l).cells := by
    intro l hl hne
    rw [Set.disjoint_left]
    intro b hb hb'
    rcases hnew b hb with hold | hold
    · exact Set.disjoint_left.mp (hs.disjoint l hl k hk hne) hb' hold
    · have := (hs.reps l hl).lt_length hb'
      omega
  refine ⟨fun l hl => ?_, fun l hl m hm hne => ?_, fun l hl => ?_⟩
  · by_cases hlk : l = k
    · subst hlk
      simpa using hrep
    · rw [Function.update_of_ne hlk]
      refine (hs.reps l hl).of_cells fun {b c} hb hc => hcells ?_ ?_ hc
      · exact Set.disjoint_left.mp (hs.disjoint l hl k hk hlk) hb
      · rintro rfl
        exact hs.root l hl hb
  · by_cases hlk : l = k
    · subst hlk
      rw [Function.update_self, Function.update_of_ne hne.symm]
      exact hdisjoint m hm hne.symm
    · rw [Function.update_of_ne hlk]
      by_cases hmk : m = k
      · subst hmk
        rw [Function.update_self]
        exact (hdisjoint l hl hlk).symm
      · rw [Function.update_of_ne hmk]
        exact hs.disjoint l hl m hm hne
  · by_cases hlk : l = k
    · subst hlk
      rw [Function.update_self]
      exact fun hmem => (hnew _ hmem).elim (hs.root l hl) (by omega)
    · rw [Function.update_of_ne hlk]
      exact hs.root l hl

end Slots

end OpenApiTypes.TypeScript
