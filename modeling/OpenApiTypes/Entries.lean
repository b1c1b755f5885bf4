/-
Maps that remember the order in which their keys arrived.

* `Entries`: a list of keys with their values;
* `Entries.get?`, `Entries.put`: a key that is put again keeps its place and takes the new value;
* `Entries.keys_put`: the keys after `put`;
* `Entries.get?_cons`: what `get?` finds in a map with one entry more in front;
* `Entries.get?_put_self`, `Entries.get?_put_of_ne`: what `get?` finds after `put`.
-/

namespace OpenApiTypes

/-- A map in the order of its keys' first arrival. -/
abbrev Entries (κ α : Type) := List (κ × α)

namespace Entries

variable {κ α β : Type} [BEq κ]

/-- The value of a key. -/
def get? (e : Entries κ α) (key : κ) : Option α := List.lookup key e

/-- Whether a key is present. -/
def has (e : Entries κ α) (key : κ) : Bool := (e.get? key).isSome

/-- Gives a key a value: in place when the key is present, at the end otherwise. -/
def put : Entries κ α → κ → α → Entries κ α
  | [], key, value => [(key, value)]
  | (k, v) :: rest, key, value =>
    if key == k then (k, value) :: rest else (k, v) :: put rest key value

/-- The keys in order. -/
def keys (e : Entries κ α) : List κ := e.map Prod.fst

/-- The values in order. -/
def values (e : Entries κ α) : List α := e.map Prod.snd

/-- The map of a list of pairs: a repeated key keeps its first place and its last value. -/
def ofPairs (pairs : List (κ × α)) : Entries κ α :=
  pairs.foldl (fun e p => put e p.1 p.2) []

/-- The same keys with values computed from them. -/
def mapValues (f : α → β) (e : Entries κ α) : Entries κ β := e.map fun (k, v) => (k, f v)

/-! ### Laws -/

theorem get?_cons (key k : κ) (v : α) (rest : Entries κ α) :
    get? ((k, v) :: rest) key = if key == k then some v else rest.get? key := by
  simp only [get?, List.lookup_cons]
  cases key == k <;> rfl

theorem get?_put_self [LawfulBEq κ] (e : Entries κ α) (key : κ) (value : α) :
    (e.put key value).get? key = some value := by
  induction e with
  | nil => simp [put, get?_cons]
  | cons p rest ih =>
    obtain ⟨k, v⟩ := p
    by_cases h : key = k
    · simp [put, get?_cons, h]
    · simpa [put, get?_cons, h] using ih

theorem get?_put_of_ne [LawfulBEq κ] (e : Entries κ α) {key other : κ} (h : other ≠ key)
    (value : α) : (e.put key value).get? other = e.get? other := by
  induction e with
  | nil => simp [put, get?_cons, h]
  | cons p rest ih =>
    obtain ⟨k, v⟩ := p
    by_cases hk : key = k
    · simp [put, get?_cons, h, ← hk]
    · simp [put, get?_cons, hk, ih]

/-- A new key goes to the end, a known one stays where it is. -/
theorem keys_put [LawfulBEq κ] (e : Entries κ α) (key : κ) (value : α) :
    (e.put key value).keys = if key ∈ e.keys then e.keys else e.keys ++ [key] := by
  induction e with
  | nil => simp [put, keys]
  | cons p rest ih =>
    obtain ⟨k, v⟩ := p
    by_cases h : key = k
    · simp [put, keys, h]
    · have hne : (key == k) = false := by simp [h]
      simp only [put, hne, keys, List.map_cons, List.mem_cons, h, false_or] at ih ⊢
      simp only [Bool.false_eq_true, if_false, List.map_cons, ih]
      split <;> simp [*]

end Entries

end OpenApiTypes
