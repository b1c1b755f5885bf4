/-
Trees some of whose leaves have become dates and long integers.

* `TypeScript.IsBigintOf`: a long integer is what the digits of a number say;
* `TypeScript.Tree.at?`: the part of a tree at a path;
* `TypeScript.Tree.Becomes`: a tree becomes another one in which some texts are dates and some
  numbers are long integers;
* `TypeScript.Tree.Becomes.trans`: what has become a tree may become another one;
* `TypeScript.Tree.Becomes.exists_at?`: whatever is at a path becomes what is there afterwards.
-/
import OpenApiTypes.Proofs.TypeScript.Representation

namespace OpenApiTypes.TypeScript

/-! ### Long integers -/

/-- Integers with one text are the same. -/
lemma toString_int_injective {i j : Int} (h : toString i = toString j) : i = j := by
  have := congrArg String.toInt? h
  simpa [toString] using this

/-- A long integer is what the digits of a number say. Up to `2 ^ 53` it is the number itself.
Beyond, the numbers of JavaScript are too far apart to hold every integer. -/
structure IsBigintOf (numberText : Number → String) (n : Number) (j : Int) : Prop where
  text : numberText n = toString j
  exact : ∀ i, n.IsInteger i → i.natAbs ≤ Nat.pow 2 53 → j = i

lemma IsBigintOf.unique {numberText : Number → String} {n : Number} {i j : Int}
    (hi : IsBigintOf numberText n i) (hj : IsBigintOf numberText n j) : i = j :=
  toString_int_injective (hi.text.symm.trans hj.text)

/-- A step into a value. -/
inductive Step where
  | member (name : String)
  | element (index : Nat)
deriving DecidableEq, Repr

namespace Tree

variable {numberText : Number → String} {t u w : Tree} {path : List Step}

/-! ### Paths -/

/-- The part of a tree at a path. -/
def at? : Tree → List Step → Option Tree
  | t, [] => some t
  | array elements, .element i :: path => elements[i]?.bind fun t => t.at? path
  | record members, .member name :: path => (Entries.get? members name).bind fun t => t.at? path
  | _, _ => none

@[simp] lemma at?_nil : t.at? [] = some t := by
  cases t <;> simp [at?]

@[simp] lemma at?_element {elements : List Tree} {i : Nat} :
    (array elements).at? (.element i :: path) = elements[i]?.bind fun t => t.at? path := by
  simp [at?]

@[simp] lemma at?_member {members : List (String × Tree)} {name : String} :
    (record members).at? (.member name :: path)
      = (Entries.get? members name).bind fun t => t.at? path := by
  simp [at?]

/-! ### Leaves that become others -/

/-- A tree becomes another one in which some texts are dates and some numbers are long integers. -/
inductive Becomes (numberText : Number → String) : Tree → Tree → Prop where
  | refl (t : Tree) : Becomes numberText t t
  | date (text : String) : Becomes numberText (scalar (.string text)) (scalar (.date text))
  | bigint {n : Number} {i : Int} (h : IsBigintOf numberText n i) :
      Becomes numberText (scalar (.number n)) (scalar (.bigint i))
  | array {pairs : List (Tree × Tree)} (h : ∀ x ∈ pairs, Becomes numberText x.1 x.2) :
      Becomes numberText (array (pairs.map Prod.fst)) (array (pairs.map Prod.snd))
  | record {entries : List (String × Tree × Tree)}
      (h : ∀ x ∈ entries, Becomes numberText x.2.1 x.2.2) :
      Becomes numberText (record (entries.map fun x => (x.1, x.2.1)))
        (record (entries.map fun x => (x.1, x.2.2)))

/-- Lists that agree under some functions are the sides of a list of pairs. -/
lemma exists_zip {α β γ : Type} {f : α → γ} {g : β → γ} {l : List α} {l' : List β}
    (h : l.map f = l'.map g) : ∃ m : List (α × β), m.map Prod.fst = l ∧ m.map Prod.snd = l'
      ∧ ∀ x ∈ m, f x.1 = g x.2 := by
  induction l generalizing l' with
  | nil => exact ⟨[], rfl, by simpa using h, by simp⟩
  | cons a l ih =>
    cases l' with
    | nil => simp at h
    | cons b l' =>
      obtain ⟨hhead, htail⟩ := List.cons.inj h
      obtain ⟨m, rfl, rfl, hm⟩ := ih htail
      exact ⟨(a, b) :: m, rfl, rfl, List.forall_mem_cons.mpr ⟨hhead, hm⟩⟩

namespace Becomes

lemma exists_pairs {trees : List Tree} (h : Becomes numberText (.array trees) w) :
    ∃ pairs : List (Tree × Tree), pairs.map Prod.fst = trees ∧ w = .array (pairs.map Prod.snd)
      ∧ ∀ x ∈ pairs, Becomes numberText x.1 x.2 := by
  cases h with
  | refl =>
    refine ⟨trees.map fun t => (t, t), by simp [Function.comp_def],
      by simp [Function.comp_def], List.forall_mem_map.mpr fun t _ => .refl t⟩
  | array h => exact ⟨_, rfl, rfl, h⟩

lemma exists_entries {members : List (String × Tree)} (h : Becomes numberText (.record members) w) :
    ∃ entries : List (String × Tree × Tree), (entries.map fun x => (x.1, x.2.1)) = members
      ∧ w = .record (entries.map fun x => (x.1, x.2.2))
      ∧ ∀ x ∈ entries, Becomes numberText x.2.1 x.2.2 := by
  cases h with
  | refl =>
    refine ⟨members.map fun x => (x.1, x.2, x.2), by simp [Function.comp_def],
      by simp [Function.comp_def], List.forall_mem_map.mpr fun x _ => .refl x.2⟩
  | record h => exact ⟨_, rfl, rfl, h⟩

/-- What the elements of a JSON array have become. -/
lemma exists_elements {values : List Json} (h : Becomes numberText (ofJson (.arr values)) w) :
    ∃ parts : List (Json × Tree), parts.map Prod.fst = values ∧ w = .array (parts.map Prod.snd)
      ∧ ∀ x ∈ parts, Becomes numberText (ofJson x.1) x.2 := by
  rw [ofJson, ofItems_eq] at h
  obtain ⟨pairs, hpairs, rfl, hbecomes⟩ := h.exists_pairs
  obtain ⟨m, rfl, rfl, hm⟩ := exists_zip hpairs.symm
  refine ⟨m.map fun x => (x.1, x.2.2), by simp [Function.comp_def], by simp [Function.comp_def],
    List.forall_mem_map.mpr fun x hx => ?_⟩
  rw [hm x hx]
  exact hbecomes x.2 (List.mem_map_of_mem hx)

/-- What the members of a JSON object have become. -/
lemma exists_members {members : List (String × Json)}
    (h : Becomes numberText (ofJson (.obj members)) w) :
    ∃ parts : List (String × Json × Tree), (parts.map fun x => (x.1, x.2.1)) = members
      ∧ w = .record (parts.map fun x => (x.1, x.2.2))
      ∧ ∀ x ∈ parts, Becomes numberText (ofJson x.2.1) x.2.2 := by
  rw [ofJson, ofMembers_eq] at h
  obtain ⟨entries, hentries, rfl, hbecomes⟩ := h.exists_entries
  obtain ⟨m, rfl, rfl, hm⟩ := exists_zip hentries.symm
  have hnames : ((m.map Prod.snd).map fun x => (x.1, x.2.2))
      = (m.map fun x => (x.1.1, x.1.2, x.2.2.2)).map fun x => (x.1, x.2.2) := by
    rw [List.map_map, List.map_map]
    refine List.map_congr_left fun x hx => Prod.ext ?_ rfl
    exact (Prod.mk.inj (hm x hx)).1.symm
  refine ⟨m.map fun x => (x.1.1, x.1.2, x.2.2.2), by simp [Function.comp_def],
    by rw [hnames], List.forall_mem_map.mpr fun x hx => ?_⟩
  rw [(Prod.mk.inj (hm x hx)).2]
  exact hbecomes x.2 (List.mem_map_of_mem hx)

/-- Null stays null, and nothing else becomes null. -/
lemma eq_null_iff (h : Becomes numberText t w) : w = .scalar .null ↔ t = .scalar .null := by
  cases h <;> simp

/-- What has become a tree may become another one. -/
lemma trans (h : Becomes numberText t u) (h' : Becomes numberText u w) :
    Becomes numberText t w := by
  induction h generalizing w with
  | refl => exact h'
  | date text =>
    cases h'
    exact .date text
  | bigint hi =>
    cases h'
    exact .bigint hi
  | @array pairs _ ih =>
    obtain ⟨pairs', hpairs, rfl, hpairs'⟩ := h'.exists_pairs
    obtain ⟨m, rfl, rfl, hm⟩ := exists_zip hpairs.symm
    have hall : ∀ x ∈ m.map fun x => (x.1.1, x.2.2), Becomes numberText x.1 x.2 := by
      refine List.forall_mem_map.mpr fun x hx => ih x.1 (List.mem_map_of_mem hx) ?_
      rw [hm x hx]
      exact hpairs' x.2 (List.mem_map_of_mem hx)
    simpa [Function.comp_def] using Becomes.array hall
  | @record entries _ ih =>
    obtain ⟨entries', hentries, rfl, hentries'⟩ := h'.exists_entries
    obtain ⟨m, rfl, rfl, hm⟩ := exists_zip hentries.symm
    have hall : ∀ x ∈ m.map fun x => (x.1.1, x.1.2.1, x.2.2.2),
        Becomes numberText x.2.1 x.2.2 := by
      refine List.forall_mem_map.mpr fun x hx => ih x.1 (List.mem_map_of_mem hx) ?_
      obtain ⟨-, heq⟩ := Prod.mk.inj (hm x hx)
      rw [heq]
      exact hentries' x.2 (List.mem_map_of_mem hx)
    have hnames : ((m.map fun x => x.2).map fun x => (x.1, x.2.2))
        = m.map fun x => (x.1.1, x.2.2.2) := by
      rw [List.map_map]
      refine List.map_congr_left fun x hx => Prod.ext ?_ rfl
      exact (Prod.mk.inj (hm x hx)).1.symm
    rw [hnames]
    simpa [Function.comp_def] using Becomes.record hall

/-- Whatever is at a path becomes what is there afterwards. -/
lemma exists_at? (h : Becomes numberText t w) {x : Tree} (hx : t.at? path = some x) :
    ∃ y, w.at? path = some y ∧ Becomes numberText x y := by
  induction path generalizing t w with
  | nil =>
    obtain rfl : t = x := by simpa using hx
    exact ⟨w, by simp, h⟩
  | cons step path ih =>
    cases t with
    | scalar => simp [at?] at hx
    | array trees =>
      obtain ⟨pairs, rfl, rfl, hpairs⟩ := h.exists_pairs
      cases step with
      | member => simp [at?] at hx
      | element i =>
        simp only [at?_element, List.getElem?_map, Option.bind_map] at hx ⊢
        obtain ⟨pair, hpair, hx⟩ := Option.bind_eq_some_iff.mp hx
        rw [hpair]
        exact ih (hpairs pair (List.mem_of_getElem? hpair)) hx
    | record members =>
      obtain ⟨entries, rfl, rfl, hentries⟩ := h.exists_entries
      cases step with
      | element => simp [at?] at hx
      | member name =>
        have hget {α : Type} (f : Tree × Tree → α) :
            Entries.get? (entries.map fun x => (x.1, f x.2)) name
              = (Entries.get? entries name).map f := Entries.get?_mapValues f entries name
        simp only [at?_member, hget Prod.fst, hget Prod.snd, Option.bind_map] at hx ⊢
        obtain ⟨pair, hpair, hx⟩ := Option.bind_eq_some_iff.mp hx
        rw [hpair]
        exact ih (hentries (name, pair) (Entries.mem_of_get? hpair)) hx

end Becomes

end Tree

end OpenApiTypes.TypeScript
