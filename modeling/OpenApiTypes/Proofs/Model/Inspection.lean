/-
What the search for a paging field looks at.

* `Model.Leads`: a reference leads to the component it names, a conjunction to its items;
* `Model.Inspects`: what is looked at for a schema: what it stands for, and the same again for the
  items of a conjunction. A component that is a reference itself is looked at as it is;
* `Model.Pages`: a schema has a property with the name of a paging field and a primitive schema;
* `Model.exists_of_searchPaged`: a field that is found belongs to something that was looked at;
* `Model.Passed`, `Model.exists_passed_of_searchPaged`: what has been looked at in vain, when some
  references may not be entered again, and that everything has been when nothing is found;
* `Model.pagingOfBody?_eq_field_iff`: so a field is found exactly if something that is looked at has
  one, `Model.exists_overlooked`: which may fail where an alias stands between.
-/
import OpenApiTypes.Model.Paging
import OpenApiTypes.Proofs.Entries
import Mathlib.Logic.Relation

namespace OpenApiTypes.Model

variable {catalog : Catalog} {keywords : List String} {s t u : Schema} {name : String}

/-! ### What is looked at -/

/-- A reference leads to the component it names, a conjunction to its items. -/
inductive Leads (catalog : Catalog) (s : Schema) : Schema → Prop where
  | component {t : Schema} (h : catalog.target? s = some t) : Leads catalog s t
  | item {t : Schema} (hs : s.isConjunction = true) (ht : t ∈ s.items) : Leads catalog s t

/-- What is looked at in the place of a schema: the component that a reference names. -/
def inspected? (catalog : Catalog) (s : Schema) : Option Schema :=
  match s.pointer with
  | none => some s
  | some pointer => catalog.find? pointer

/-- What is looked at for a schema: what stands in its place, and whatever is looked at for the
items of that. -/
inductive Inspects (catalog : Catalog) : Schema → Schema → Prop where
  | entry {s t : Schema} (h : inspected? catalog s = some t) : Inspects catalog s t
  | item {s t i u : Schema} (h : inspected? catalog s = some t) (ht : t.isConjunction = true)
      (hi : i ∈ t.items) (hu : Inspects catalog i u) : Inspects catalog s u

/-- A schema has a property with the name of a paging field and a primitive schema. -/
def Pages (catalog : Catalog) (keywords : List String) (s : Schema) (name : String) : Prop :=
  name ∈ keywords
    ∧ ∃ property, (name, property) ∈ s.properties ∧ isPrimitiveLike catalog property = true

lemma inspected?_of_inline (h : s.pointer = none) : inspected? catalog s = some s := by
  rw [inspected?, h]

lemma inspected?_of_reference {pointer : String} (h : s.pointer = some pointer) :
    inspected? catalog s = catalog.find? pointer := by
  rw [inspected?, h]

lemma pages_of_ownPagedProperty? (h : ownPagedProperty? catalog keywords s = some name) :
    Pages catalog keywords s name := by
  obtain ⟨⟨name, property⟩, hfind, rfl⟩ := Option.map_eq_some_iff.mp h
  have hfound := List.find?_some hfind
  obtain ⟨hname, hprimitive⟩ := Bool.and_eq_true_iff.mp hfound
  exact ⟨List.contains_iff_mem.mp hname, property, List.mem_of_find?_eq_some hfind, hprimitive⟩

lemma not_pages_of_ownPagedProperty? (h : ownPagedProperty? catalog keywords s = none)
    (name : String) : ¬ Pages catalog keywords s name := by
  rintro ⟨hname, property, hproperty, hprimitive⟩
  have hnone := List.find?_eq_none.mp (Option.map_eq_none_iff.mp h) _ hproperty
  exact hnone (Bool.and_eq_true_iff.mpr ⟨List.contains_iff_mem.mpr hname, hprimitive⟩)

/-! ### Steps of the search -/

/-- The tasks of the component that a pointer names. -/
def Catalog.pagingTasks (catalog : Catalog) (pointer : String) : List PagingTask :=
  (catalog.find? pointer).toList.flatMap Schema.pagingTasks

lemma mem_pagingTasks {pointer : String} {task : PagingTask} :
    task ∈ catalog.pagingTasks pointer
      ↔ ∃ t, catalog.find? pointer = some t ∧ task ∈ t.pagingTasks := by
  simp [Catalog.pagingTasks]

section

variable {fresh : List String} {rest : List PagingTask} {pointer : String}

lemma searchPaged_missed (h : ownPagedProperty? catalog keywords s = none) :
    searchPaged catalog keywords fresh (.properties s :: rest)
      = searchPaged catalog keywords fresh rest := by
  rw [searchPaged, h]

lemma searchPaged_inline (h : s.pointer = none) :
    searchPaged catalog keywords fresh (.schema s :: rest)
      = searchPaged catalog keywords fresh (s.pagingTasks ++ rest) := by
  rw [searchPaged, h]

lemma searchPaged_enter (h : s.pointer = some pointer) (hmem : pointer ∈ fresh) :
    searchPaged catalog keywords fresh (.schema s :: rest)
      = searchPaged catalog keywords (Reference.without pointer fresh)
        (catalog.pagingTasks pointer ++ rest) := by
  rw [searchPaged, h]
  dsimp only
  rw [dif_pos hmem, Catalog.pagingTasks]
  cases catalog.find? pointer <;> simp

lemma searchPaged_again (h : s.pointer = some pointer) (hmem : pointer ∉ fresh) :
    searchPaged catalog keywords fresh (.schema s :: rest)
      = searchPaged catalog keywords fresh rest := by
  rw [searchPaged, h]
  dsimp only
  rw [dif_neg hmem]

end

/-- What holds of a search that is over, and of every other one if it holds of what is left after
its first task, holds of every search. -/
@[elab_as_elim]
lemma search_induction (catalog : Catalog) (keywords : List String)
    {motive : List String → List PagingTask → Prop} (nil : ∀ fresh, motive fresh [])
    (found : ∀ fresh s rest name, ownPagedProperty? catalog keywords s = some name →
      motive fresh (.properties s :: rest))
    (missed : ∀ fresh s rest, ownPagedProperty? catalog keywords s = none → motive fresh rest →
      motive fresh (.properties s :: rest))
    (inline : ∀ fresh s rest, s.pointer = none → motive fresh (s.pagingTasks ++ rest) →
      motive fresh (.schema s :: rest))
    (enter : ∀ fresh s rest pointer, s.pointer = some pointer → pointer ∈ fresh →
      motive (Reference.without pointer fresh) (catalog.pagingTasks pointer ++ rest) →
        motive fresh (.schema s :: rest))
    (again : ∀ fresh s rest pointer, s.pointer = some pointer → pointer ∉ fresh →
      motive fresh rest → motive fresh (.schema s :: rest))
    (fresh : List String) (tasks : List PagingTask) : motive fresh tasks := by
  induction fresh, tasks using searchPaged.induct catalog keywords with
  | case1 fresh => exact nil fresh
  | case2 fresh s rest name hown => exact found fresh s rest name hown
  | case3 fresh s rest hown ih => exact missed fresh s rest hown ih
  | case4 fresh s rest hpointer ih => exact inline fresh s rest hpointer ih
  | case5 fresh s rest pointer hpointer hmem target htarget ih =>
    refine enter fresh s rest pointer hpointer hmem ?_
    simpa [Catalog.pagingTasks, htarget] using ih
  | case6 fresh s rest pointer hpointer hmem htarget ih =>
    refine enter fresh s rest pointer hpointer hmem ?_
    simpa [Catalog.pagingTasks, htarget] using ih
  | case7 fresh s rest pointer hpointer hmem ih => exact again fresh s rest pointer hpointer hmem ih

/-! ### What is found -/

/-- What is still to look at has a paging field. -/
inductive TaskPages (catalog : Catalog) (keywords : List String) (name : String) :
    PagingTask → Prop where
  | schema {s t : Schema} (hs : Inspects catalog s t) (ht : Pages catalog keywords t name) :
      TaskPages catalog keywords name (.schema s)
  | properties {s : Schema} (hs : Pages catalog keywords s name) :
      TaskPages catalog keywords name (.properties s)

/-- If a task of what stands in the place of a schema has a paging field, then so has the
schema. -/
lemma TaskPages.of_entry {task : PagingTask} (h : TaskPages catalog keywords name task)
    (hentry : inspected? catalog s = some t) (htask : task ∈ t.pagingTasks) :
    TaskPages catalog keywords name (.schema s) := by
  rw [Schema.pagingTasks] at htask
  rcases List.mem_append.mp htask with hitem | hown
  · split_ifs at hitem with hconjunction
    · obtain ⟨i, hi, rfl⟩ := List.mem_map.mp hitem
      cases h with
      | schema hs hpages => exact .schema (.item hentry hconjunction hi hs) hpages
    · simp at hitem
  · obtain rfl := List.mem_singleton.mp hown
    cases h with
    | properties hpages => exact .schema (.entry hentry) hpages

/-- A field that is found belongs to one of the tasks. -/
lemma exists_of_searchPaged {fresh : List String} {tasks : List PagingTask}
    (h : searchPaged catalog keywords fresh tasks = some name) :
    ∃ task ∈ tasks, TaskPages catalog keywords name task := by
  induction fresh, tasks using search_induction catalog keywords with
  | nil => simp [searchPaged] at h
  | found fresh s rest own hown =>
    rw [searchPaged, hown] at h
    obtain rfl := Option.some.inj h
    exact ⟨_, List.mem_cons_self, .properties (pages_of_ownPagedProperty? hown)⟩
  | missed fresh s rest hown ih =>
    obtain ⟨task, htask, hpages⟩ := ih (searchPaged_missed hown ▸ h)
    exact ⟨task, List.mem_cons_of_mem _ htask, hpages⟩
  | inline fresh s rest hpointer ih =>
    obtain ⟨task, htask, hpages⟩ := ih (searchPaged_inline hpointer ▸ h)
    rcases List.mem_append.mp htask with hown | hrest
    · exact ⟨_, List.mem_cons_self, hpages.of_entry (inspected?_of_inline hpointer) hown⟩
    · exact ⟨task, List.mem_cons_of_mem _ hrest, hpages⟩
  | enter fresh s rest pointer hpointer hmem ih =>
    obtain ⟨task, htask, hpages⟩ := ih (searchPaged_enter hpointer hmem ▸ h)
    rcases List.mem_append.mp htask with hown | hrest
    · obtain ⟨target, htarget, hown⟩ := mem_pagingTasks.mp hown
      have hentry := (inspected?_of_reference hpointer).trans htarget
      exact ⟨_, List.mem_cons_self, hpages.of_entry hentry hown⟩
    · exact ⟨task, List.mem_cons_of_mem _ hrest, hpages⟩
  | again fresh s rest pointer hpointer hmem ih =>
    obtain ⟨task, htask, hpages⟩ := ih (searchPaged_again hpointer hmem ▸ h)
    exact ⟨task, List.mem_cons_of_mem _ htask, hpages⟩

/-! ### What is passed over -/

/-- A task has been done in vain, when some pointers are left that have not been entered. A
reference by another pointer counts as done: what it names is looked at elsewhere. -/
inductive Passed (catalog : Catalog) (keywords : List String) (left : List String) :
    PagingTask → Prop where
  | reference {s : Schema} {pointer : String} (hs : s.pointer = some pointer)
      (hleft : pointer ∉ left) : Passed catalog keywords left (.schema s)
  | inline {s : Schema} (hs : s.pointer = none)
      (htasks : ∀ task ∈ s.pagingTasks, Passed catalog keywords left task) :
      Passed catalog keywords left (.schema s)
  | properties {s : Schema} (hs : ownPagedProperty? catalog keywords s = none) :
      Passed catalog keywords left (.properties s)

/-- Every pointer that is not left has been entered, and what it names was looked at in vain. -/
def Entered (catalog : Catalog) (keywords fresh left : List String) : Prop :=
  ∀ pointer ∈ fresh, pointer ∉ left →
    ∀ task ∈ catalog.pagingTasks pointer, Passed catalog keywords left task

/-- When nothing is found, all tasks have been done in vain, and so have the tasks of every
component that was entered on the way. -/
lemma exists_passed_of_searchPaged {fresh : List String} {tasks : List PagingTask}
    (h : searchPaged catalog keywords fresh tasks = none) : ∃ left ⊆ fresh,
      (∀ task ∈ tasks, Passed catalog keywords left task)
        ∧ Entered catalog keywords fresh left := by
  induction fresh, tasks using search_induction catalog keywords with
  | nil fresh => exact ⟨fresh, List.Subset.refl _, by simp, fun _ hp hleft => absurd hp hleft⟩
  | found fresh s rest own hown => simp [searchPaged, hown] at h
  | missed fresh s rest hown ih =>
    obtain ⟨left, hsub, htasks, hentered⟩ := ih (searchPaged_missed hown ▸ h)
    exact ⟨left, hsub, List.forall_mem_cons.mpr ⟨.properties hown, htasks⟩, hentered⟩
  | inline fresh s rest hpointer ih =>
    obtain ⟨left, hsub, htasks, hentered⟩ := ih (searchPaged_inline hpointer ▸ h)
    obtain ⟨hown, hrest⟩ := List.forall_mem_append.mp htasks
    exact ⟨left, hsub, List.forall_mem_cons.mpr ⟨.inline hpointer hown, hrest⟩, hentered⟩
  | enter fresh s rest pointer hpointer hmem ih =>
    obtain ⟨left, hsub, htasks, hentered⟩ := ih (searchPaged_enter hpointer hmem ▸ h)
    obtain ⟨hown, hrest⟩ := List.forall_mem_append.mp htasks
    have hleft : pointer ∉ left := fun hin => (Reference.mem_without.mp (hsub hin)).2 rfl
    refine ⟨left, fun p hp => (Reference.mem_without.mp (hsub hp)).1,
      List.forall_mem_cons.mpr ⟨.reference hpointer hleft, hrest⟩, fun p hp hnot => ?_⟩
    -- The pointer that was entered first is no longer fresh afterwards.
    by_cases heq : p = pointer
    · exact heq ▸ hown
    · exact hentered p (Reference.mem_without.mpr ⟨hp, heq⟩) hnot
  | again fresh s rest pointer hpointer hmem ih =>
    obtain ⟨left, hsub, htasks, hentered⟩ := ih (searchPaged_again hpointer hmem ▸ h)
    have hleft : pointer ∉ left := fun hin => hmem (hsub hin)
    exact ⟨left, hsub, List.forall_mem_cons.mpr ⟨.reference hpointer hleft, htasks⟩, hentered⟩

/-! ### Pointers within reach -/

lemma mem_itemPointersOfList {pointer : String} {items : List Schema} :
    pointer ∈ itemPointersOfList items ↔ ∃ i ∈ items, pointer ∈ itemPointers i := by
  induction items with
  | nil => simp [itemPointersOfList]
  | cons i items ih => simp [itemPointersOfList, ih]

lemma itemPointers_eq (s : Schema) :
    itemPointers s = s.pointer.toList ++ itemPointersOfList s.items := by
  cases s
  rw [itemPointers]

lemma itemPointers_subset_of_item {i : Schema} (hi : i ∈ s.items) :
    itemPointers i ⊆ itemPointers s := by
  intro p hp
  rw [itemPointers_eq s]
  exact List.mem_append_right _ (mem_itemPointersOfList.mpr ⟨i, hi, hp⟩)

lemma Catalog.mem_values_of_find? {pointer : String} (h : catalog.find? pointer = some t) :
    t ∈ catalog.values := by
  obtain ⟨name, -, hget⟩ := Option.bind_eq_some_iff.mp h
  exact List.mem_map.mpr ⟨_, Entries.mem_of_get? hget, rfl⟩

section

variable {pointers left : List String}
  (hcatalog : ∀ component ∈ catalog.values, itemPointers component ⊆ pointers)
  (hentered : Entered catalog keywords pointers left)

include hcatalog hentered

/-- What stands in the place of a schema that was looked at in vain was looked at in vain. -/
lemma passed_of_inspected? (hs : itemPointers s ⊆ pointers)
    (hpassed : Passed catalog keywords left (.schema s)) (h : inspected? catalog s = some t) :
    itemPointers t ⊆ pointers ∧ ∀ task ∈ t.pagingTasks, Passed catalog keywords left task := by
  cases hpassed with
  | inline hpointer htasks =>
    rw [inspected?_of_inline hpointer] at h
    obtain rfl := Option.some.inj h
    exact ⟨hs, htasks⟩
  | @reference _ pointer hpointer hleft =>
    rw [inspected?_of_reference hpointer] at h
    have hmem : pointer ∈ pointers := hs (by simp [itemPointers_eq, hpointer])
    exact ⟨hcatalog t (Catalog.mem_values_of_find? h), fun task htask =>
      hentered pointer hmem hleft task (mem_pagingTasks.mpr ⟨t, h, htask⟩)⟩

/-- Nothing that is looked at has a paging field when all was looked at in vain. -/
lemma not_pages_of_inspects (h : Inspects catalog s u) (hs : itemPointers s ⊆ pointers)
    (hpassed : Passed catalog keywords left (.schema s)) (name : String) :
    ¬ Pages catalog keywords u name := by
  induction h with
  | @entry s t hentry =>
    obtain ⟨-, htasks⟩ := passed_of_inspected? hcatalog hentered hs hpassed hentry
    have hown := htasks (.properties t) (by simp [Schema.pagingTasks])
    cases hown with
    | properties hown => exact not_pages_of_ownPagedProperty? hown name
  | @item s t i u hentry hconjunction hi _ ih =>
    obtain ⟨ht, htasks⟩ := passed_of_inspected? hcatalog hentered hs hpassed hentry
    refine ih (List.Subset.trans (itemPointers_subset_of_item hi) ht) ?_
    exact htasks (.schema i) (by simp [Schema.pagingTasks, hconjunction, hi])

end

/-! ### Bodies -/

/-- A field that is found in a body belongs to something that is looked at. -/
lemma exists_of_pagingOfBody? {found : Pagination}
    (h : pagingOfBody? catalog keywords s = some found) :
    ∃ t name, found = .field name ∧ Inspects catalog s t ∧ Pages catalog keywords t name := by
  obtain ⟨name, hsearch, rfl⟩ := Option.map_eq_some_iff.mp h
  obtain ⟨task, htask, hpages⟩ := exists_of_searchPaged hsearch
  obtain rfl := List.mem_singleton.mp htask
  cases hpages with
  | schema hinspects hpages => exact ⟨_, name, rfl, hinspects, hpages⟩

/-- No field is found in a body only if nothing that is looked at has one. -/
lemma not_pages_of_pagingOfBody? (h : pagingOfBody? catalog keywords s = none)
    (hinspects : Inspects catalog s t) (name : String) : ¬ Pages catalog keywords t name := by
  have hsearch := Option.map_eq_none_iff.mp h
  obtain ⟨left, -, htasks, hentered⟩ := exists_passed_of_searchPaged hsearch
  refine not_pages_of_inspects (fun component hcomponent p hp => ?_) hentered hinspects
    (List.subset_append_left _ _) (htasks _ (List.mem_singleton_self _)) name
  exact List.mem_append_right _ (List.mem_flatMap.mpr ⟨component, hcomponent, hp⟩)

/-! ### Aliases -/

/-- No reference within reach of a schema says anything beside its pointer, or names a component
that is a reference itself. -/
def Direct (catalog : Catalog) (s : Schema) : Prop :=
  ∀ t, Relation.ReflTransGen (Leads catalog) s t → t.pointer ≠ none →
    t.properties = [] ∧ t.items = [] ∧ ∀ u, catalog.target? t = some u → u.pointer = none

lemma target?_of_inspected? (h : inspected? catalog s = some t) :
    s.pointer = none ∧ s = t ∨ catalog.target? s = some t := by
  cases hpointer : s.pointer with
  | none => exact .inl ⟨rfl, Option.some.inj ((inspected?_of_inline hpointer).symm.trans h)⟩
  | some pointer =>
    rw [Catalog.target?, hpointer]
    exact .inr ((inspected?_of_reference hpointer).symm.trans h)

lemma inspected?_of_target? (h : catalog.target? s = some t) : inspected? catalog s = some t := by
  obtain ⟨pointer, hpointer, hfind⟩ := Option.bind_eq_some_iff.mp h
  exact (inspected?_of_reference hpointer).trans hfind

/-- Whatever is looked at is within reach. -/
lemma reaches_of_inspects (h : Inspects catalog s t) :
    Relation.ReflTransGen (Leads catalog) s t := by
  have hentry : ∀ {s t : Schema}, inspected? catalog s = some t →
      Relation.ReflTransGen (Leads catalog) s t := by
    intro s t hentry
    rcases target?_of_inspected? hentry with ⟨-, rfl⟩ | htarget
    · exact .refl
    · exact .single (.component htarget)
  induction h with
  | entry h => exact hentry h
  | item h hconjunction hi _ ih =>
    exact (hentry h).trans (.head (.item hconjunction hi) ih)

/-- Without aliases, whatever is within reach and has a paging field is looked at. -/
lemma inspects_of_reaches (hdirect : Direct catalog s)
    (h : Relation.ReflTransGen (Leads catalog) s t) (hpages : Pages catalog keywords t name) :
    Inspects catalog s t := by
  induction h using Relation.ReflTransGen.head_induction_on with
  | refl =>
    refine .entry (inspected?_of_inline ?_)
    by_contra hpointer
    obtain ⟨-, property, hproperty, -⟩ := hpages
    simp [(hdirect t .refl hpointer).1] at hproperty
  | @head s r hleads _ ih =>
    have hrest := ih fun u hu => hdirect u (.head hleads hu)
    cases hleads with
    | component htarget =>
      have hentry := inspected?_of_target? htarget
      have hpointer : s.pointer ≠ none := by
        rintro heq
        simp [Catalog.target?, heq] at htarget
      have hinline := (hdirect s .refl hpointer).2.2 r htarget
      cases hrest with
      | entry h =>
        obtain rfl := Option.some.inj ((inspected?_of_inline hinline).symm.trans h)
        exact .entry hentry
      | item h hconjunction hi hu =>
        obtain rfl := Option.some.inj ((inspected?_of_inline hinline).symm.trans h)
        exact .item hentry hconjunction hi hu
    | item hconjunction hr =>
      refine .item (inspected?_of_inline ?_) hconjunction hr hrest
      by_contra hpointer
      simp [(hdirect s .refl hpointer).2.1] at hr

/-- The search in a body finds a field exactly if something that it looks at has one, and the field
is one of those. A component is looked at once whatever refers to it, cycles included. Where no
component is a mere alias, that is everything within reach. -/
theorem pagingOfBody?_eq_field_iff (catalog : Catalog) (keywords : List String) (s : Schema) :
    ((∃ name, pagingOfBody? catalog keywords s = some (.field name)) ↔
      ∃ t name, Inspects catalog s t ∧ Pages catalog keywords t name)
    ∧ (∀ found, pagingOfBody? catalog keywords s = some found →
      ∃ t name, found = .field name ∧ Inspects catalog s t ∧ Pages catalog keywords t name)
    ∧ (Direct catalog s → ∀ t name, Pages catalog keywords t name →
      (Inspects catalog s t ↔ Relation.ReflTransGen (Leads catalog) s t)) := by
  refine ⟨⟨?_, ?_⟩, fun _ => exists_of_pagingOfBody?, fun hdirect t name hpages =>
    ⟨reaches_of_inspects, fun h => inspects_of_reaches hdirect h hpages⟩⟩
  · rintro ⟨name, h⟩
    obtain ⟨t, name, -, hinspects, hpages⟩ := exists_of_pagingOfBody? h
    exact ⟨t, name, hinspects, hpages⟩
  · rintro ⟨t, name, hinspects, hpages⟩
    cases h : pagingOfBody? catalog keywords s with
    | none => exact absurd hpages (not_pages_of_pagingOfBody? h hinspects name)
    | some found =>
      obtain ⟨-, name, rfl, -, -⟩ := exists_of_pagingOfBody? h
      exact ⟨name, rfl⟩

/-- A page of results. -/
def page : Schema := { shape := some .object, properties := [("cursor", .ofShape .string)] }

lemma pages_page (catalog : Catalog) : Pages catalog ["cursor"] page "cursor" :=
  ⟨List.mem_singleton_self _, _, List.mem_singleton_self _, rfl⟩

/-- What is made of a node and a page. -/
def node : Schema := ({} : Schema).setItems
  [.reference "#/components/schemas/Node", .reference "#/components/schemas/Page"] .and

/-- A component that is made of itself and a page. -/
def circularPage : Catalog := [("Node", node), ("Page", page)]

lemma direct_circularPage : Direct circularPage (.reference "#/components/schemas/Node") := by
  intro t ht hpointer
  have hreached : t = .reference "#/components/schemas/Node"
      ∨ t = .reference "#/components/schemas/Page" ∨ t.pointer = none ∧ (t = node ∨ t = page) := by
    clear hpointer
    induction ht with
    | refl => exact .inl rfl
    | tail _ hleads ih =>
      cases hleads with
      | component htarget =>
        rcases ih with rfl | rfl | ⟨hnone, -⟩
        · exact .inr (.inr ⟨Option.some.inj htarget ▸ rfl, .inl (Option.some.inj htarget).symm⟩)
        · exact .inr (.inr ⟨Option.some.inj htarget ▸ rfl, .inr (Option.some.inj htarget).symm⟩)
        · simp [Catalog.target?, hnone] at htarget
      | item hconjunction hitem =>
        rcases ih with rfl | rfl | ⟨-, rfl | rfl⟩
        · exact absurd hitem List.not_mem_nil
        · exact absurd hitem List.not_mem_nil
        · rcases List.mem_cons.mp hitem with rfl | hitem
          · exact .inl rfl
          · exact .inr (.inl (List.mem_singleton.mp hitem))
        · exact absurd hitem List.not_mem_nil
  rcases hreached with rfl | rfl | ⟨hnone, -⟩
  · exact ⟨rfl, rfl, fun u hu => Option.some.inj hu ▸ rfl⟩
  · exact ⟨rfl, rfl, fun u hu => Option.some.inj hu ▸ rfl⟩
  · exact absurd hnone hpointer

theorem pagingOfBody?_eq_field_iff_circularPage :
    Direct circularPage (.reference "#/components/schemas/Node")
      ∧ ∃ name, pagingOfBody? circularPage ["cursor"] (.reference "#/components/schemas/Node")
        = some (.field name) := by
  have hreaches : Relation.ReflTransGen (Leads circularPage)
      (.reference "#/components/schemas/Node") page :=
    .head (.component (t := node) rfl)
      (.head (.item rfl (List.mem_cons_of_mem _ (List.mem_singleton_self _)))
        (.single (.component rfl)))
  obtain ⟨hfound, -, hdirect⟩ := pagingOfBody?_eq_field_iff circularPage ["cursor"]
    (.reference "#/components/schemas/Node")
  have hinspects := (hdirect direct_circularPage page "cursor" (pages_page _)).mpr hreaches
  exact ⟨direct_circularPage, hfound.mpr ⟨page, "cursor", hinspects, pages_page _⟩⟩

/-- A component that is another name for a page. -/
def aliasedPage : Catalog :=
  [("Alias", .reference "#/components/schemas/Page"), ("Page", page)]

/-- Nothing but the reference behind an alias is looked at. -/
lemma eq_of_inspects_alias
    (h : Inspects aliasedPage (.reference "#/components/schemas/Alias") t) :
    t = .reference "#/components/schemas/Page" := by
  cases h with
  | entry hentry => exact (Option.some.inj hentry).symm
  | item hentry _ hi _ =>
    obtain rfl := Option.some.inj hentry
    exact absurd hi List.not_mem_nil

/-- Behind an alias a field is overlooked. -/
theorem exists_overlooked : ∃ catalog keywords s t name,
    Relation.ReflTransGen (Leads catalog) s t ∧ Pages catalog keywords t name
      ∧ pagingOfBody? catalog keywords s = none := by
  refine ⟨aliasedPage, ["cursor"], .reference "#/components/schemas/Alias", page, "cursor",
    .head (.component rfl) (.single (.component rfl)), pages_page _, ?_⟩
  refine Option.eq_none_iff_forall_not_mem.mpr fun found hfound => ?_
  obtain ⟨t, name, -, hinspects, -, property, hproperty, -⟩ := exists_of_pagingOfBody? hfound
  obtain rfl := eq_of_inspects_alias hinspects
  exact absurd hproperty List.not_mem_nil

end OpenApiTypes.Model
