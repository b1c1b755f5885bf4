/-
Components that stand for other components.

* `Model.Catalog.chain?`: the schema at each place of the chain that begins at a schema;
* `Model.Catalog.Ends`, `Model.Catalog.Circular`: a chain that ends at a schema which leads on to
  none, and a chain that comes back to a place;
* `Model.Catalog.Circular.not_ends`, `Model.Catalog.Ends.unique`: a chain does not do both, and it
  ends at one schema only;
* `Model.Catalog.circular_of_chain?`: a chain with more links than there are components comes back
  to one of them;
* `Model.Catalog.ends_iff_deref_eq`: so `deref` finds the end of every chain that has one.
-/
import Mathlib.Data.Fintype.Pigeonhole
import OpenApiTypes.Proofs.Model.Inspection

namespace OpenApiTypes.Model.Catalog

variable {catalog : Catalog} {s t last : Schema} {i j k links : ℕ}

/-! ### The schemas of a chain -/

/-- The schema at a place of the chain that begins at a schema, as far as the chain goes. -/
def chain? (catalog : Catalog) (s : Schema) : ℕ → Option Schema
  | 0 => some s
  | k + 1 => (catalog.chain? s k).bind catalog.target?

/-- The chain that begins at a schema ends at another one, which leads on to none: it stands for no
component, or for one that the catalog does not have. -/
def Ends (catalog : Catalog) (s last : Schema) : Prop :=
  (∃ k, catalog.chain? s k = some last) ∧ catalog.target? last = none

/-- The chain that begins at a schema comes back to a place. -/
def Circular (catalog : Catalog) (s : Schema) : Prop :=
  ∃ i j, i < j ∧ catalog.chain? s i = catalog.chain? s j ∧ catalog.chain? s i ≠ none

lemma chain?_succ (h : catalog.chain? s k = some t) :
    catalog.chain? s (k + 1) = catalog.target? t := by
  rw [chain?, h, Option.bind_some]

/-- A chain may be read from its second schema on. -/
lemma chain?_succ_of_target? (h : catalog.target? s = some t) (k : ℕ) :
    catalog.chain? s (k + 1) = catalog.chain? t k := by
  induction k with
  | zero => exact h
  | succ k ih => rw [chain?, ih, chain?]

/-- A chain that has ended does not go on later. -/
lemma chain?_eq_none_of_le (h : catalog.chain? s i = none) (hle : i ≤ j) :
    catalog.chain? s j = none := by
  induction hle with
  | refl => exact h
  | step _ ih => rw [chain?, ih, Option.bind_none]

/-- Two places with one schema are followed by the same schemas. -/
lemma chain?_add_eq (h : catalog.chain? s i = catalog.chain? s j) (k : ℕ) :
    catalog.chain? s (i + k) = catalog.chain? s (j + k) := by
  induction k with
  | zero => exact h
  | succ k ih => rw [← Nat.add_assoc, ← Nat.add_assoc, chain?, chain?, ih]

/-- After the first schema of a chain there are only components. -/
lemma mem_values_of_chain?_succ (h : catalog.chain? s (k + 1) = some t) : t ∈ catalog.values := by
  obtain ⟨u, -, htarget⟩ := Option.bind_eq_some_iff.mp h
  obtain ⟨pointer, -, hfind⟩ := Option.bind_eq_some_iff.mp htarget
  exact mem_values_of_find? hfind

/-! ### Ends and circles -/

/-- A chain that comes back to a place goes on for ever. -/
lemma Circular.chain?_ne_none (h : catalog.Circular s) (k : ℕ) : catalog.chain? s k ≠ none := by
  obtain ⟨i, j, hlt, hrepeats, hsome⟩ := h
  induction k using Nat.strong_induction_on with
  | _ k ih =>
    rcases Nat.lt_or_ge k j with hk | hk
    · rcases Nat.lt_or_ge i k with hi | hi
      · -- the place `k` lies on the way from `i` to `j`, and the chain does go on to `j`
        intro hnone
        exact hsome (hrepeats.trans (chain?_eq_none_of_le hnone hk.le))
      · exact fun hnone => hsome (chain?_eq_none_of_le hnone hi)
    · have hback := chain?_add_eq hrepeats (k - j)
      rw [Nat.add_sub_cancel' hk] at hback
      rw [← hback]
      exact ih _ (by omega)

lemma Circular.not_ends (h : catalog.Circular s) : ¬ catalog.Ends s last := by
  rintro ⟨⟨k, hchain⟩, hlast⟩
  exact h.chain?_ne_none (k + 1) ((chain?_succ hchain).trans hlast)

/-- A chain ends at one schema only. -/
lemma Ends.unique (h : catalog.Ends s last) (h' : catalog.Ends s t) : last = t := by
  obtain ⟨⟨k, hchain⟩, hlast⟩ := h
  obtain ⟨⟨k', hchain'⟩, hlast'⟩ := h'
  have hend := (chain?_succ hchain).trans hlast
  have hend' := (chain?_succ hchain').trans hlast'
  rcases Nat.lt_trichotomy k k' with hlt | rfl | hgt
  · simp [chain?_eq_none_of_le hend hlt] at hchain'
  · exact Option.some.inj (hchain.symm.trans hchain')
  · simp [chain?_eq_none_of_le hend' hgt] at hchain

/-- Each schema after the first one has a place in the catalog. -/
lemma exists_getElem_of_chain?_succ (h : catalog.chain? s (k + 1) ≠ none) :
    ∃ place : Fin catalog.length, catalog.chain? s (k + 1) = some catalog[place].2 := by
  obtain ⟨t, ht⟩ := Option.ne_none_iff_exists'.mp h
  obtain ⟨place, hlt, rfl⟩ := List.mem_iff_getElem.mp (mem_values_of_chain?_succ ht)
  exact ⟨⟨place, by simpa [Entries.values] using hlt⟩, by simp [ht, Entries.values]⟩

/-- A chain with more links than there are components comes back to one of them. -/
lemma circular_of_chain? (h : catalog.chain? s (catalog.length + 1) ≠ none) :
    catalog.Circular s := by
  have hplace : ∀ k : Fin (catalog.length + 1), ∃ place : Fin catalog.length,
      catalog.chain? s (k + 1) = some catalog[place].2 := fun k =>
    exists_getElem_of_chain?_succ fun hnone =>
      h (chain?_eq_none_of_le hnone (Nat.succ_le_of_lt k.isLt))
  choose place hchain using hplace
  -- the chain has one place more than the catalog
  obtain ⟨i, j, hne, heq⟩ := Fintype.exists_ne_map_eq_of_card_lt place (by simp)
  have hrepeats : catalog.chain? s (i + 1) = catalog.chain? s (j + 1) := by
    rw [hchain, hchain, heq]
  rcases Nat.lt_or_gt_of_ne (Fin.val_ne_of_ne hne) with hlt | hgt
  · exact ⟨i + 1, j + 1, Nat.succ_lt_succ hlt, hrepeats, by simp [hchain]⟩
  · exact ⟨j + 1, i + 1, Nat.succ_lt_succ hgt, hrepeats.symm, by simp [hchain]⟩

/-! ### Following a chain -/

/-- So many links are followed, or as many as there are. -/
lemma exists_chain?_derefWithin (catalog : Catalog) (links : ℕ) (s : Schema) :
    ∃ k ≤ links, catalog.chain? s k = some (catalog.derefWithin links s)
      ∧ (k = links ∨ catalog.target? (catalog.derefWithin links s) = none) := by
  induction links generalizing s with
  | zero => exact ⟨0, le_rfl, rfl, .inl rfl⟩
  | succ links ih =>
    rw [derefWithin]
    cases htarget : catalog.target? s with
    | none => exact ⟨0, Nat.zero_le _, rfl, .inr htarget⟩
    | some next =>
      obtain ⟨k, hle, hchain, hend⟩ := ih next
      rw [← chain?_succ_of_target? htarget] at hchain
      exact ⟨k + 1, Nat.succ_le_succ hle, hchain, hend.imp_left (congrArg _)⟩

/-- With as many links as there are components, the schema that is reached leads on to another one
only in a circle. -/
lemma circular_of_target?_derefWithin (hlinks : catalog.length ≤ links)
    (h : catalog.target? (catalog.derefWithin links s) ≠ none) : catalog.Circular s := by
  obtain ⟨k, -, hchain, hk⟩ := exists_chain?_derefWithin catalog links s
  obtain rfl := hk.resolve_right h
  rw [← chain?_succ hchain] at h
  exact circular_of_chain? fun hnone => h (chain?_eq_none_of_le hnone (Nat.succ_le_succ hlinks))

/-- With as many links as there are components, the end of every chain is found that has one. -/
lemma Ends.derefWithin_eq (h : catalog.Ends s last) (hlinks : catalog.length ≤ links) :
    catalog.derefWithin links s = last := by
  obtain ⟨k, -, hchain, -⟩ := exists_chain?_derefWithin catalog links s
  refine Ends.unique ⟨⟨k, hchain⟩, ?_⟩ h
  by_contra htarget
  exact (circular_of_target?_derefWithin hlinks htarget).not_ends h

/-- **The end of a chain is found if there is one.** The schema that `deref` gives is the one at
which the chain ends; if it still leads on to another one, the chain comes back to a place, and only
then. Of the links that are followed, one more than there are components, the last is never
needed. -/
theorem ends_iff_deref_eq (catalog : Catalog) (s : Schema) :
    (∀ last, catalog.Ends s last ↔ catalog.deref s = last ∧ catalog.target? last = none)
      ∧ (catalog.Circular s ↔ catalog.target? (catalog.deref s) ≠ none)
      ∧ ∀ links ≥ catalog.length, ¬ catalog.Circular s →
        catalog.derefWithin links s = catalog.deref s := by
  have hderef : ∀ {last}, catalog.Ends s last → catalog.deref s = last := fun h =>
    h.derefWithin_eq (Nat.le_succ _)
  have hchain : ∃ k, catalog.chain? s k = some (catalog.deref s) := by
    obtain ⟨k, -, hchain, -⟩ := exists_chain?_derefWithin catalog (catalog.length + 1) s
    exact ⟨k, hchain⟩
  have hends : catalog.target? (catalog.deref s) = none → catalog.Ends s (catalog.deref s) :=
    fun htarget => ⟨hchain, htarget⟩
  refine ⟨fun last => ⟨fun h => ⟨hderef h, h.2⟩, ?_⟩, ⟨?_, ?_⟩, ?_⟩
  · rintro ⟨rfl, htarget⟩
    exact hends htarget
  · exact fun hcircular htarget => hcircular.not_ends (hends htarget)
  · exact circular_of_target?_derefWithin (Nat.le_succ _)
  · intro links hlinks hcircular
    refine Ends.derefWithin_eq (hends ?_) hlinks
    by_contra htarget
    exact hcircular (circular_of_target?_derefWithin (Nat.le_succ _) htarget)

/-- A chain through every component, from a schema that is none of them and writes a name in its own
way. -/
example :
    (deref [("C", .ofShape .string), ("A", .reference "#/components/schemas/B"),
        ("B", .reference "#/components/schemas/C")]
      (.reference "#/components/schemas/%41")).shape = some .string := by
  decide +kernel

end OpenApiTypes.Model.Catalog
