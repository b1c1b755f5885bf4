/-
Maps in the order of their keys' first arrival: what `put` leaves in them.

* `Entries.mem_put`: an entry after `put` is the new one or an old one;
* `Entries.get?_eq_some_iff`: with distinct keys, `get?` finds exactly the entries;
* `Entries.get?_eq_of_perm`: whatever their order;
* `Entries.put_of_get?`: putting what is there changes nothing;
* `Entries.get?_map`, `Entries.put_map`: maps whose values are computed from distinct keys;
* `Entries.get?_ofPairs`, `Entries.keys_ofPairs`: the map of a list of pairs has the last value of
  every key, and the keys in the order in which they first occur.
-/
import OpenApiTypes.Entries
import Mathlib.Data.List.Induction
import Mathlib.Tactic.Common

namespace OpenApiTypes.Entries

variable {κ α : Type} [BEq κ] [LawfulBEq κ]

lemma mem_put {e : Entries κ α} {key : κ} {value : α} {p : κ × α} (h : p ∈ e.put key value) :
    p = (key, value) ∨ p ∈ e := by
  induction e with
  | nil => exact .inl (List.mem_singleton.mp h)
  | cons q rest ih =>
    obtain ⟨k, v⟩ := q
    simp only [put] at h
    split at h
    · obtain rfl : key = k := by simpa using ‹(key == k) = true›
      rcases List.mem_cons.mp h with rfl | h
      · exact .inl rfl
      · exact .inr (List.mem_cons_of_mem _ h)
    · rcases List.mem_cons.mp h with rfl | h
      · exact .inr List.mem_cons_self
      · exact (ih h).imp id (List.mem_cons_of_mem _)

lemma mem_values_put {e : Entries κ α} {key : κ} {value v : α}
    (h : v ∈ (e.put key value).values) : v = value ∨ v ∈ e.values := by
  obtain ⟨p, hp, rfl⟩ := List.mem_map.mp h
  rcases mem_put hp with rfl | hp
  · exact .inl rfl
  · exact .inr (List.mem_map_of_mem hp)

lemma nodup_keys_put {e : Entries κ α} (h : e.keys.Nodup) (key : κ) (value : α) :
    (e.put key value).keys.Nodup := by
  rw [keys_put]
  split
  · exact h
  · rename_i hkey
    refine List.nodup_append.mpr ⟨h, by simp, ?_⟩
    simp only [List.mem_singleton, forall_eq]
    exact fun k hk heq => hkey (heq ▸ hk)

/-- With distinct keys, looking a key up finds exactly its entry. -/
lemma get?_eq_some_iff {e : Entries κ α} (h : e.keys.Nodup) {key : κ} {value : α} :
    e.get? key = some value ↔ (key, value) ∈ e := by
  induction e with
  | nil => simp [get?]
  | cons p rest ih =>
    obtain ⟨k, v⟩ := p
    obtain ⟨hk, hrest⟩ := List.nodup_cons.mp h
    by_cases hkey : key = k
    · subst hkey
      have hfresh : (key, value) ∉ rest := fun hmem => hk (List.mem_map.mpr ⟨_, hmem, rfl⟩)
      simp [get?_cons, hfresh, eq_comm]
    · simp [get?_cons, hkey, ih hrest]

lemma mem_of_get? {e : Entries κ α} {key : κ} {value : α} (h : e.get? key = some value) :
    (key, value) ∈ e := by
  induction e with
  | nil => simp [get?] at h
  | cons p rest ih =>
    obtain ⟨k, v⟩ := p
    rw [get?_cons] at h
    split at h
    · obtain rfl : key = k := by simpa using ‹(key == k) = true›
      exact Option.some.inj h ▸ List.mem_cons_self
    · exact List.mem_cons_of_mem _ (ih h)

/-- With distinct keys, the order of the entries does not matter. -/
lemma get?_eq_of_perm {e e' : Entries κ α} (h : e.Perm e') (hnodup : e.keys.Nodup) :
    e.get? = e'.get? := by
  have hnodup' : e'.keys.Nodup := (h.map Prod.fst).nodup_iff.mp hnodup
  funext key
  ext value
  rw [get?_eq_some_iff hnodup, get?_eq_some_iff hnodup', h.mem_iff]

lemma put_of_get? {e : Entries κ α} {key : κ} {value : α} (h : e.get? key = some value) :
    e.put key value = e := by
  induction e with
  | nil => simp [get?] at h
  | cons p rest ih =>
    obtain ⟨k, v⟩ := p
    rw [get?_cons] at h
    by_cases hkey : key = k
    · simp_all [put]
    · simp only [beq_iff_eq, hkey, if_false] at h
      simp [put, hkey, ih h]

lemma put_put (e : Entries κ α) (key : κ) (value value' : α) :
    (e.put key value).put key value' = e.put key value' := by
  induction e with
  | nil => simp [put]
  | cons p rest ih =>
    obtain ⟨k, v⟩ := p
    by_cases hkey : key = k
    · simp [put, hkey]
    · have hne : (key == k) = false := by simp [hkey]
      simp [put, hne, ih]

omit [LawfulBEq κ] in
lemma get?_mapValues {β : Type} (f : α → β) (e : Entries κ α) (key : κ) :
    (e.mapValues f).get? key = (e.get? key).map f := by
  induction e with
  | nil => rfl
  | cons p rest ih =>
    obtain ⟨k, v⟩ := p
    simp only [mapValues, List.map_cons, get?_cons] at ih ⊢
    split
    · rfl
    · exact ih

omit [LawfulBEq κ] in
lemma mapValues_put {β : Type} (f : α → β) (e : Entries κ α) (key : κ) (value : α) :
    (e.put key value).mapValues f = (e.mapValues f).put key (f value) := by
  induction e with
  | nil => rfl
  | cons p rest ih =>
    obtain ⟨k, v⟩ := p
    simp only [mapValues, List.map_cons, put] at ih ⊢
    split <;> simp [ih]

/-- A key that is put in front of a map was there, unless the map was empty. -/
lemma put_eq_cons {e rest : Entries κ α} {key : κ} {value value' : α}
    (h : e.put key value = (key, value') :: rest) : value = value' ∧ e.tail = rest := by
  cases e with
  | nil => simpa [put, eq_comm] using h
  | cons p e =>
    obtain ⟨k, v⟩ := p
    by_cases hkey : key = k
    · simpa [put, hkey] using h
    · simp [put, hkey, Ne.symm hkey] at h

section

variable {names : List κ} {f : κ → α} {key : κ}

lemma get?_map (h : key ∈ names) : get? (names.map fun n => (n, f n)) key = some (f key) := by
  induction names with
  | nil => simp at h
  | cons n names ih =>
    by_cases hkey : key = n
    · simp [get?_cons, hkey]
    · simpa [get?_cons, hkey] using ih (by simpa [hkey] using h)

lemma get?_map_of_notMem (h : key ∉ names) : get? (names.map fun n => (n, f n)) key = none := by
  induction names with
  | nil => rfl
  | cons n names ih =>
    obtain ⟨hkey, hrest⟩ := not_or.mp (List.mem_cons.not.mp h)
    simpa [get?_cons, hkey] using ih hrest

lemma put_map [DecidableEq κ] (hnodup : names.Nodup) (h : key ∈ names) (value : α) :
    put (names.map fun n => (n, f n)) key value
      = names.map fun n => (n, if n = key then value else f n) := by
  induction names with
  | nil => simp at h
  | cons n names ih =>
    obtain ⟨hn, hrest⟩ := List.nodup_cons.mp hnodup
    by_cases hkey : key = n
    · subst hkey
      have hsame : names.map (fun n => (n, if n = key then value else f n))
          = names.map fun n => (n, f n) := by
        refine List.map_congr_left fun m hm => ?_
        rw [if_neg fun (heq : m = key) => hn (heq ▸ hm)]
      simp [put, hsame]
    · have hne : (key == n) = false := by simp [hkey]
      simp [put, hne, Ne.symm hkey, ih hrest (by simpa [hkey] using h)]

end

/-! ### Maps of pairs -/

omit [LawfulBEq κ] in
lemma ofPairs_concat (pairs : List (κ × α)) (p : κ × α) :
    ofPairs (pairs ++ [p]) = (ofPairs pairs).put p.1 p.2 := by
  simp [ofPairs]

lemma mem_of_mem_ofPairs {pairs : List (κ × α)} {p : κ × α} (h : p ∈ ofPairs pairs) :
    p ∈ pairs := by
  induction pairs using List.reverseRecOn with
  | nil => cases h
  | append_singleton pairs q ih =>
    rw [ofPairs_concat] at h
    rcases mem_put h with rfl | h
    · exact List.mem_append_right _ (List.mem_singleton_self _)
    · exact List.mem_append_left _ (ih h)

/-- The last value of a key is its value. -/
lemma get?_ofPairs (pairs : List (κ × α)) (key : κ) :
    (ofPairs pairs).get? key = (pairs.filter fun p => p.1 == key).getLast?.map Prod.snd := by
  induction pairs using List.reverseRecOn with
  | nil => rfl
  | append_singleton pairs p ih =>
    obtain ⟨k, v⟩ := p
    rw [ofPairs_concat, List.filter_append]
    by_cases hkey : key = k
    · subst hkey
      simp [get?_put_self]
    · simp [get?_put_of_ne _ hkey, ih, Ne.symm hkey]

/-- The keys stand in the order in which they first occur. -/
lemma keys_ofPairs (pairs : List (κ × α)) :
    (ofPairs pairs).keys = (pairs.map Prod.fst).eraseDups := by
  induction pairs using List.reverseRecOn with
  | nil => rfl
  | append_singleton pairs p ih =>
    rw [ofPairs_concat, keys_put, ih, List.map_append, List.eraseDups_append]
    by_cases hkey : p.1 ∈ pairs.map Prod.fst <;>
      simp [List.removeAll, hkey, List.mem_eraseDups, List.eraseDups_cons]

end OpenApiTypes.Entries
