/-
Values read as records: what is read from the parts of a value, and read again from what is written.

* `Json.Within`: the values that a value consists of;
* `Json.bind_eq_some_iff`: what is read step by step;
* `Json.mapM_eq_some_iff`: items that are read one by one;
* `Json.forall_of_list?`, `Json.forall_of_entries?`, `Json.forall_of_nullable?`: what holds of all
  that is read from parts of a value holds of what a list, a map or an option read from it contains;
* `Json.of_defaulted?`, `Json.forall_of_optional?`: what holds of all that is read holds of a field;
* `Json.RoundTrips`: a reader that reads again whatever it has read, from what was written of it;
* `Json.list?_map`, `Json.entries?_map`: lists and maps are read again if what they contain is;
* `Json.get?_append`, `Json.get?_memberIf`: what members that may be left out have under a key;
* `Json.optional?_of_get?`, `Json.defaulted?_of_get?`: a field that is left out when it says nothing
  is read again; `Json.defaulted?_list`, `Json.defaulted?_entries`, `Json.defaulted?_flag` for the
  kinds of fields;
* `Json.RoundTrips.optional?`, `Json.RoundTrips.list?`, `Json.RoundTrips.entries?`: so is a field
  that was read before, whatever it was read from.
-/
import OpenApiTypes.Json.Record
import OpenApiTypes.Proofs.Entries
import Mathlib.Data.List.Forall2

namespace OpenApiTypes.Json

/-! ### Parts of a value -/

/-- The values that a value consists of: itself, and those of its items and members. -/
inductive Within (v : Json) : Json → Prop where
  | self : Within v v
  | item {items : List Json} {w : Json} (hw : w ∈ items) (h : Within v w) : Within v (.arr items)
  | member {members : Entries String Json} {m : String × Json} (hm : m ∈ members)
      (h : Within v m.2) : Within v (.obj members)

lemma Within.sizeOf_le {v w : Json} (h : v.Within w) : sizeOf v ≤ sizeOf w := by
  induction h with
  | self => exact Nat.le_refl _
  | item hw _ ih =>
    have := List.sizeOf_lt_of_mem hw
    simp only [Json.arr.sizeOf_spec]
    omega
  | @member members m hm _ ih =>
    have := List.sizeOf_lt_of_mem hm
    obtain ⟨key, w⟩ := m
    simp only [Json.obj.sizeOf_spec, Prod.mk.sizeOf_spec] at *
    omega

/-- What a member of an object consists of is smaller than the object. -/
lemma Within.sizeOf_lt_of_mem {members : Entries String Json} {m : String × Json} {w : Json}
    (h : w.Within m.2) (hm : m ∈ members) : sizeOf w < sizeOf (Json.obj members) := by
  have hle := h.sizeOf_le
  have hlt := List.sizeOf_lt_of_mem hm
  obtain ⟨key, v⟩ := m
  simp only [Json.obj.sizeOf_spec, Prod.mk.sizeOf_spec] at *
  omega

/-! ### Steps and items -/

/-- A reader that goes on from what it has read. Stated for the notation of readers, so that `simp`
can open the first step before it looks at what comes after it. -/
lemma bind_eq_some_iff {α β : Type} {x : Option α} {f : α → Option β} {b : β} :
    x >>= f = some b ↔ ∃ a, x = some a ∧ f a = some b :=
  Option.bind_eq_some_iff

section

variable {κ α : Type} {f : κ → Option α} {l : List κ} {e : List α}

lemma mapM_eq_some_iff : l.mapM f = some e ↔ List.Forall₂ (fun a b => f a = some b) l e := by
  induction l generalizing e with
  | nil => simp [eq_comm]
  | cons a l ih =>
    simp only [List.mapM_cons, ↓bind_eq_some_iff, Option.pure_def, Option.some.injEq,
      List.forall₂_cons_left_iff, ih]
    exact ⟨fun ⟨b, hb, rest, hrest, he⟩ => ⟨b, rest, hb, hrest, he.symm⟩,
      fun ⟨b, rest, hb, hrest, he⟩ => ⟨b, hb, rest, hrest, he.symm⟩⟩

lemma forall_of_mapM {P : α → Prop} (he : l.mapM f = some e)
    (h : ∀ a ∈ l, ∀ b, f a = some b → P b) : ∀ b ∈ e, P b := by
  have hboth : List.Forall₂ (fun a b => (∀ b, f a = some b → P b) ∧ f a = some b) l e :=
    (List.forall₂_and_left l e).mpr ⟨h, mapM_eq_some_iff.mp he⟩
  have hflip : List.Forall₂ (fun b a => P b ∧ f a = some b) e l :=
    hboth.flip.imp fun b a hab => ⟨hab.1 b hab.2, hab.2⟩
  exact ((List.forall₂_and_left e l).mp hflip).1

end

/-! ### What is read -/

section

variable {α : Type} {P : α → Prop} {read : Json → Option α} {v : Json}

lemma forall_of_list? {xs : List α} (hxs : list? read v = some xs)
    (h : ∀ w, w.Within v → ∀ x, read w = some x → P x) : ∀ x ∈ xs, P x := by
  cases v with
  | arr items => exact forall_of_mapM hxs fun w hw => h w (.item hw .self)
  | null | bool | number | str | obj => simp [list?] at hxs

lemma forall_of_entries? {e : Entries String α} (he : entries? read v = some e)
    (h : ∀ w, w.Within v → ∀ x, read w = some x → P x) : ∀ p ∈ e, P p.2 := by
  cases v with
  | obj members =>
    refine forall_of_mapM (P := fun p => P p.2) he fun m hm p hp => ?_
    obtain ⟨x, hx, hp⟩ := Option.bind_eq_some_iff.mp hp
    obtain rfl := Option.some.inj hp
    exact h m.2 (.member hm .self) x hx
  | null | bool | number | str | arr => simp [entries?] at he

/-- The first item of a sequence stands for the first field. -/
lemma get?_of_record? {name : String} {names : List String} {least : Nat} {items : List Json}
    {fields : Entries String Json}
    (h : record? (name :: names) least (.arr (v :: items)) = some fields) :
    Entries.get? fields name = some v := by
  rw [record?] at h
  split_ifs at h
  obtain rfl := Option.some.inj h
  simp [Entries.get?]

lemma nullable?_of_ne_null (hv : v ≠ .null) : nullable? read v = (read v).map some := by
  cases v with
  | null => exact absurd rfl hv
  | bool | number | str | arr | obj => rfl

lemma forall_of_nullable? {o : Option α} (ho : nullable? read v = some o)
    (h : v ≠ .null → ∀ x, read v = some x → P x) : ∀ x ∈ o, P x := by
  rintro x rfl
  by_cases hv : v = .null
  · subst hv
    simp [nullable?] at ho
  · rw [nullable?_of_ne_null hv] at ho
    obtain ⟨y, hy, heq⟩ := Option.map_eq_some_iff.mp ho
    exact h hv x (Option.some.inj heq ▸ hy)

variable {fields : Entries String Json} {name : String}

lemma forall_of_optional? {o : Option α} (ho : optional? fields name read = some o)
    (h : ∀ v x, v ≠ .null → read v = some x → P x) : ∀ x ∈ o, P x := by
  rw [optional?] at ho
  split at ho
  · obtain rfl := Option.some.inj ho
    simp
  · exact forall_of_nullable? ho fun hv x hx => h _ x hv hx

/-- A value that was read for an option is not null. -/
lemma ne_null_of_nullable? {o : Option Json} (ho : nullable? any? v = some o) : o ≠ some .null := by
  rintro rfl
  refine forall_of_nullable? (P := (· ≠ Json.null)) ho (fun hv x hx => ?_) _ rfl rfl
  exact Option.some.inj hx ▸ hv

/-- What holds of the default and of all that is read holds of a field. -/
lemma of_defaulted? {default x : α} (hx : defaulted? fields name default read = some x)
    (hdefault : P default) (h : ∀ v x, read v = some x → P x) : P x := by
  rw [defaulted?] at hx
  split at hx
  · obtain rfl := Option.some.inj hx
    exact hdefault
  · exact h _ x hx

lemma forall_of_defaulted?_list {xs : List α}
    (hxs : defaulted? fields name [] (list? read) = some xs)
    (h : ∀ v x, read v = some x → P x) : ∀ x ∈ xs, P x :=
  of_defaulted? (P := fun xs : List α => ∀ x ∈ xs, P x) hxs (by simp) fun _ _ hread =>
    forall_of_list? hread fun w _ x hx => h w x hx

lemma forall_of_defaulted?_entries {e : Entries String α}
    (he : defaulted? fields name [] (entries? read) = some e)
    (h : ∀ v x, read v = some x → P x) : ∀ p ∈ e, P p.2 :=
  of_defaulted? (P := fun e : Entries String α => ∀ p ∈ e, P p.2) he (by simp) fun _ _ hread =>
    forall_of_entries? hread fun w _ x hx => h w x hx

end

/-! ### What is read again -/

variable {α : Type} {read : Json → Option α} {write : α → Json}

/-- What is read is read again from what is written of it. -/
def RoundTrips (read : Json → Option α) (write : α → Json) : Prop :=
  ∀ v x, read v = some x → read (write x) = some x

/-! ### Lists and maps -/

lemma list?_map {xs : List α} (h : ∀ x ∈ xs, read (write x) = some x) :
    list? read (.arr (xs.map write)) = some xs :=
  mapM_eq_some_iff.mpr (List.forall₂_map_left_iff.mpr (List.forall₂_same.mpr h))

lemma entries?_map {e : Entries String α} (h : ∀ p ∈ e, read (write p.2) = some p.2) :
    entries? read (.obj (e.mapValues write)) = some e := by
  refine mapM_eq_some_iff.mpr (List.forall₂_map_left_iff.mpr (List.forall₂_same.mpr ?_))
  intro p hp
  simp [h p hp]

/-! ### Members -/

section

variable (members others : Entries String Json) (name key : String) (v : Json)

@[simp]
lemma get?_nil : Entries.get? ([] : Entries String Json) key = none := rfl

@[simp]
lemma get?_cons : Entries.get? ((name, v) :: members) key
    = if key = name then some v else Entries.get? members key := by
  simp [Entries.get?_cons]

@[simp]
lemma get?_append : Entries.get? (members ++ others) key
    = (Entries.get? members key).or (Entries.get? others key) :=
  List.lookup_append

@[simp]
lemma get?_memberIf (value : Option Json) : Entries.get? (memberIf name value) key
    = if key = name then value else none := by
  cases value <;> simp [memberIf]

@[simp]
lemma flag_eq (b : Bool) : flag name b = memberIf name (if b then some (.bool true) else none) := by
  cases b <;> rfl

variable {members} in
/-- The keys of what is written are among the names, in their order. -/
lemma keys_memberIf_append_sublist {names : List String} (value : Option Json)
    (h : members.keys.Sublist names) :
    (Entries.keys (memberIf name value ++ members)).Sublist (name :: names) := by
  cases value with
  | none => exact h.cons name
  | some v => exact h.cons_cons name

end

/-! ### Fields -/

section

variable {fields : Entries String Json} {key name : String} {v : Json} {default : α}

lemma defaulted?_cons : defaulted? ((key, v) :: fields) name default read
    = if key = name then read v else defaulted? fields name default read := by
  rw [defaulted?, get?_cons]
  by_cases h : key = name
  · simp [h]
  · simp [h, Ne.symm h, defaulted?]

lemma defaulted?_of_notMem (h : name ∉ Entries.keys fields) :
    defaulted? fields name default read = some default := by
  have hnone : Entries.get? fields name = none := by
    cases hv : Entries.get? fields name with
    | none => rfl
    | some v => exact absurd (List.mem_map.mpr ⟨_, Entries.mem_of_get? hv, rfl⟩) h
  simp [defaulted?, hnone]

end

section

variable {written : Entries String Json} {name : String}

lemma required?_of_get? {x : α} {v : Json} (hget : written.get? name = some v)
    (h : read v = some x) : required? written name read = some x := by
  rw [required?, hget]
  exact h

lemma required?_string {text : String} (hget : written.get? name = some (.str text)) :
    required? written name string? = some text :=
  required?_of_get? hget rfl

/-- An option that is left out when it has no value. A value that is written as null would read as
none. -/
lemma optional?_of_get? {o : Option α} (hget : written.get? name = o.map write)
    (h : ∀ x ∈ o, read (write x) = some x ∧ write x ≠ .null) :
    optional? written name read = some o := by
  rw [optional?, hget]
  cases o with
  | none => rfl
  | some x =>
    obtain ⟨hread, hnull⟩ := h x rfl
    dsimp only [Option.map_some]
    rw [nullable?_of_ne_null hnull, hread, Option.map_some]

lemma optional?_string {o : Option String} (hget : written.get? name = o.map .str) :
    optional? written name string? = some o :=
  optional?_of_get? hget fun _ _ => ⟨rfl, nofun⟩

lemma optional?_bool {o : Option Bool} (hget : written.get? name = o.map .bool) :
    optional? written name bool? = some o :=
  optional?_of_get? hget fun _ _ => ⟨rfl, nofun⟩

lemma optional?_nat {o : Option Nat} (hget : written.get? name = o.map nat) :
    optional? written name nat? = some o :=
  optional?_of_get? hget fun _ _ => ⟨rfl, nofun⟩

lemma optional?_float {o : Option Binary64} (hget : written.get? name = o.map float) :
    optional? written name float? = some o :=
  optional?_of_get? hget fun _ _ => ⟨rfl, nofun⟩

lemma optional?_any {o : Option Json} (hget : written.get? name = o) (hnull : o ≠ some .null) :
    optional? written name any? = some o := by
  have hid : written.get? name = o.map id := by simpa using hget
  refine optional?_of_get? hid fun v hv => ⟨rfl, ?_⟩
  rintro rfl
  exact hnull hv

/-- A field that is left out only when it has its default. -/
lemma defaulted?_of_get? {default x : α} {v : Json}
    (hget : written.get? name = none ∧ x = default ∨ written.get? name = some v)
    (h : read v = some x) : defaulted? written name default read = some x := by
  rw [defaulted?]
  rcases hget with ⟨hget, rfl⟩ | hget
  · rw [hget]
  · rw [hget]
    exact h

/-- A flag that is always written. -/
lemma defaulted?_bool {default b : Bool} (hget : written.get? name = some (.bool b)) :
    defaulted? written name default bool? = some b :=
  defaulted?_of_get? (.inr hget) rfl

/-- A list that is left out when it is empty. -/
lemma defaulted?_list {xs : List α}
    (hget : written.get? name = if xs.map write = [] then none else some (.arr (xs.map write)))
    (h : ∀ x ∈ xs, read (write x) = some x) :
    defaulted? written name [] (list? read) = some xs := by
  refine defaulted?_of_get? ?_ (list?_map h)
  cases xs <;> simp [hget]

lemma defaulted?_strings {texts : List String}
    (hget : written.get? name = if texts.map Json.str = [] then none
      else some (.arr (texts.map .str))) :
    defaulted? written name [] (list? string?) = some texts :=
  defaulted?_list hget fun _ _ => rfl

lemma defaulted?_values {vs : List Json}
    (hget : written.get? name = if vs = [] then none else some (.arr vs)) :
    defaulted? written name [] (list? any?) = some vs := by
  have hid : written.get? name = if vs.map id = [] then none else some (.arr (vs.map id)) := by
    simpa using hget
  exact defaulted?_list hid fun _ _ => rfl

/-- A map that is left out when it is empty. -/
lemma defaulted?_entries {e : Entries String α}
    (hget : written.get? name
      = if e.mapValues write = [] then none else some (.obj (e.mapValues write)))
    (h : ∀ p ∈ e, read (write p.2) = some p.2) :
    defaulted? written name [] (entries? read) = some e := by
  refine defaulted?_of_get? ?_ (entries?_map h)
  cases e <;> simp [hget, Entries.mapValues]

/-- A flag that is left out when it is not set. -/
lemma defaulted?_flag {b : Bool}
    (hget : written.get? name = if b then some (.bool true) else none) :
    defaulted? written name false bool? = some b := by
  refine defaulted?_of_get? (v := .bool b) ?_ rfl
  cases b <;> simp [hget]

end

/-! ### Fields of what was read -/

section

variable {fields written : Entries String Json} {name : String}

lemma RoundTrips.optional? (h : RoundTrips read write) (hnull : ∀ x, write x ≠ .null)
    {o : Option α} (ho : optional? fields name read = some o)
    (hget : written.get? name = o.map write) : optional? written name read = some o :=
  optional?_of_get? hget <| forall_of_optional? ho fun v x _ hx => ⟨h v x hx, hnull x⟩

lemma RoundTrips.list? (h : RoundTrips read write) {xs : List α}
    (hxs : defaulted? fields name [] (list? read) = some xs)
    (hget : written.get? name = if xs.map write = [] then none else some (.arr (xs.map write))) :
    defaulted? written name [] (list? read) = some xs :=
  defaulted?_list hget (forall_of_defaulted?_list hxs h)

lemma RoundTrips.entries? (h : RoundTrips read write) {e : Entries String α}
    (he : defaulted? fields name [] (entries? read) = some e)
    (hget : written.get? name
      = if e.mapValues write = [] then none else some (.obj (e.mapValues write))) :
    defaulted? written name [] (entries? read) = some e :=
  defaulted?_entries hget (forall_of_defaulted?_entries he h)

/-- A value that was read for an option is not null. -/
lemma ne_null_of_optional? {o : Option Json} (ho : optional? fields name any? = some o) :
    o ≠ some .null := by
  rw [optional?] at ho
  split at ho
  · obtain rfl := Option.some.inj ho
    nofun
  · exact ne_null_of_nullable? ho

end

end OpenApiTypes.Json
