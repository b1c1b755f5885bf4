/-
Ids given to a list of operations, one after the other.

* `ClaimedIds.getElem?_claimAll`: the id of each operation depends on those before it;
* `ClaimedIds.claimAll_of_nodup`: operations that ask for different ids get what they ask for;
* `ClaimedIds.Invented`: an operation that came too late was given an id that it did not ask for;
* `ClaimedIds.getElem?_claimAll_eq_base_iff`: the only operation to ask for an id gets it exactly if
  it was not invented for one before, `ClaimedIds.exists_not_kept`: which can happen.
-/
import OpenApiTypes.Proofs.Naming.Fresh

namespace OpenApiTypes.ClaimedIds

variable {claimed : ClaimedIds} {calls before : List (String × String)} {base path id : String}

/-! ### One id -/

/-- What comes to the end of an id that was claimed before: the suffix of a path, or a number from
two on. -/
def IsEnding (path ending : String) : Prop :=
  ending = Naming.pathSuffix path ∧ ending ≠ "" ∨ ∃ n ≥ 2, ending = toString n

lemma choose_of_notMem (h : base ∉ claimed) (path : String) : choose claimed base path = base := by
  simp [choose, h]

lemma exists_ending_of_mem (h : base ∈ claimed) (path : String) :
    ∃ ending, IsEnding path ending ∧ choose claimed base path = base ++ ending := by
  by_cases hsuffix : Naming.pathSuffix path ≠ "" ∧ base ++ Naming.pathSuffix path ∉ claimed
  · exact ⟨_, .inl ⟨rfl, hsuffix.1⟩, by simp [choose, h, hsuffix.1, hsuffix.2]⟩
  · obtain ⟨n, hn, heq⟩ := Naming.firstFreeFrom_eq_candidate claimed.contains
      (fun n => base ++ toString n) claimed.length 2
    refine ⟨_, .inr ⟨n, hn, rfl⟩, ?_⟩
    rw [← heq, choose, if_neg (by simpa using h)]
    exact if_neg (by simpa using hsuffix)

/-! ### Lists of ids -/

lemma claimAll_cons (claimed : ClaimedIds) (call : String × String)
    (calls : List (String × String)) : claimAll claimed (call :: calls)
      = choose claimed call.1 call.2 :: claimAll (choose claimed call.1 call.2 :: claimed) calls :=
  rfl

/-- The ids that were given first are claimed for the operations that follow. -/
lemma claimAll_append (claimed : ClaimedIds) (calls others : List (String × String)) :
    claimAll claimed (calls ++ others)
      = claimAll claimed calls
        ++ claimAll ((claimAll claimed calls).reverse ++ claimed) others := by
  induction calls generalizing claimed with
  | nil => rfl
  | cons call calls ih => simp [claimAll_cons, ih]

lemma length_claimAll (claimed : ClaimedIds) (calls : List (String × String)) :
    (claimAll claimed calls).length = calls.length := by
  induction calls generalizing claimed with
  | nil => rfl
  | cons call calls ih => simp [claimAll_cons, ih]

lemma getElem?_claimAll (before later : List (String × String)) (base path : String) :
    (claimAll [] (before ++ (base, path) :: later))[before.length]?
      = some (choose (claimAll [] before).reverse base path) := by
  rw [claimAll_append, List.getElem?_append_right (Nat.le_of_eq (length_claimAll _ _)),
    length_claimAll]
  simp [claimAll_cons]

/-- Operations that ask for different ids get what they ask for. -/
lemma claimAll_of_nodup (hnodup : (calls.map Prod.fst).Nodup)
    (hfresh : ∀ call ∈ calls, call.1 ∉ claimed) : claimAll claimed calls = calls.map Prod.fst := by
  induction calls generalizing claimed with
  | nil => rfl
  | cons call calls ih =>
    obtain ⟨hbase, hnodup⟩ := List.nodup_cons.mp hnodup
    obtain ⟨hfirst, hrest⟩ := List.forall_mem_cons.mp hfresh
    have hclaimed : ∀ other ∈ calls, other.1 ∉ call.1 :: claimed := by
      intro other hother hmem
      rcases List.mem_cons.mp hmem with heq | hmem
      · exact hbase (List.mem_map.mpr ⟨other, hother, heq⟩)
      · exact hrest other hother hmem
    rw [claimAll_cons, choose_of_notMem hfirst, ih hnodup hclaimed]
    rfl

/-! ### Ids that nobody asked for -/

/-- One of the operations asked for an id that had been given before. It was given that with an
ending. -/
def Invented (calls : List (String × String)) (id : String) : Prop :=
  ∃ before base path later ending, calls = before ++ (base, path) :: later
    ∧ base ∈ claimAll [] before ∧ IsEnding path ending ∧ id = base ++ ending
    ∧ (claimAll [] calls)[before.length]? = some id

/-- An id that was given was asked for, or it is invented. -/
lemma exists_or_invented_of_mem (h : id ∈ claimAll [] calls) :
    (∃ call ∈ calls, call.1 = id) ∨ Invented calls id := by
  obtain ⟨i, hi⟩ := List.mem_iff_getElem?.mp h
  have hlength : i < calls.length := by
    rw [← length_claimAll [] calls]
    exact (List.getElem?_eq_some_iff.mp hi).1
  obtain ⟨before, ⟨base, path⟩, later, hcalls, rfl⟩ : ∃ before call later,
      calls = before ++ call :: later ∧ before.length = i :=
    ⟨calls.take i, calls[i], calls.drop (i + 1), by simp, by simp [Nat.le_of_lt hlength]⟩
  subst hcalls
  have hchoose := (getElem?_claimAll before later base path).symm.trans hi
  by_cases hbase : base ∈ claimAll [] before
  · obtain ⟨ending, hending, heq⟩ := exists_ending_of_mem (List.mem_reverse.mpr hbase) path
    exact .inr ⟨before, base, path, later, ending, rfl, hbase, hending,
      (Option.some.inj hchoose).symm.trans heq, hi⟩
  · rw [choose_of_notMem (by simpa using hbase)] at hchoose
    exact .inl ⟨(base, path), by simp, Option.some.inj hchoose⟩

/-- No id is invented as long as no two operations ask for the same one. -/
lemma not_invented_of_nodup (hnodup : (calls.map Prod.fst).Nodup) (id : String) :
    ¬ Invented calls id := by
  rintro ⟨before, base, path, later, ending, rfl, hbase, -, -, -⟩
  rw [List.map_append, List.map_cons] at hnodup
  obtain ⟨hbefore, -, hdisjoint⟩ := List.nodup_append.mp hnodup
  rw [claimAll_of_nodup hbefore fun _ _ => List.not_mem_nil] at hbase
  exact hdisjoint base hbase base List.mem_cons_self rfl

/-- An operation that is the first to ask for an id gets it exactly if it was not invented for one
before. None is invented as long as no two operations ask for the same. -/
theorem getElem?_claimAll_eq_base_iff (later : List (String × String)) (path : String)
    (hbase : ∀ call ∈ before, call.1 ≠ base) :
    ((claimAll [] (before ++ (base, path) :: later))[before.length]? = some base
      ↔ ¬ Invented before base)
    ∧ ((before.map Prod.fst).Nodup → ¬ Invented before base) := by
  refine ⟨?_, fun hnodup => not_invented_of_nodup hnodup base⟩
  rw [getElem?_claimAll, Option.some.injEq]
  constructor
  · rintro hkept ⟨earlier, base', path', between, ending, -, -, -, -, hgiven⟩
    have hmem : base ∈ (claimAll [] before).reverse :=
      List.mem_reverse.mpr (List.mem_of_getElem? hgiven)
    exact choose_not_mem _ base path (hkept ▸ hmem)
  · intro hinvented
    refine choose_of_notMem (fun hmem => ?_) path
    rcases exists_or_invented_of_mem (List.mem_reverse.mp hmem) with ⟨call, hcall, heq⟩ | h
    · exact hbase call hcall heq
    · exact hinvented h

/-- Two operations that list items, and one that lists the items of items. -/
def itemLists : List (String × String) := [("listItems", "/items"), ("listItems", "/items")]

theorem getElem?_claimAll_eq_base_iff_itemLists :
    (∀ call ∈ itemLists, call.1 ≠ "listOrders") ∧ ¬ Invented itemLists "listOrders"
      ∧ (claimAll [] (itemLists ++ [("listOrders", "/orders"), ("listItems", "/items")]))[2]?
        = some "listOrders" := by
  have hbase : ∀ call ∈ itemLists, call.1 ≠ "listOrders" := by decide
  have hgiven : (claimAll [] (itemLists ++ ("listOrders", "/orders")
      :: [("listItems", "/items")]))[itemLists.length]? = some "listOrders" := by decide +kernel
  exact ⟨hbase, (getElem?_claimAll_eq_base_iff _ _ hbase).1.mp hgiven, hgiven⟩

/-- An operation that alone asks for an id does not get it where it was invented for another. -/
theorem exists_not_kept : ∃ before later base path,
    (∀ call ∈ before ++ later, call.1 ≠ base)
      ∧ (claimAll [] (before ++ (base, path) :: later))[before.length]? ≠ some base :=
  ⟨itemLists, [], "listItemsItems", "/items/items", by decide, by decide +kernel⟩

end OpenApiTypes.ClaimedIds
