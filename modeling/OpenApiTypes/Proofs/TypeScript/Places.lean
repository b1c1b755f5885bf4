/-
Places, and what leaves them alone.

* `TypeScript.State.isAssignable_of_read?`, `TypeScript.State.write_of_read?`,
  `TypeScript.State.heap_write`: what can be assigned to, and what an assignment leaves as it is;
* `TypeScript.Keeps`: one state is another one but for some cells and for new cells;
* `TypeScript.Denotes`: an expression stands for a place, which it finds by some cells. As long as
  these are kept, it does so.
-/
import OpenApiTypes.Proofs.Entries
import OpenApiTypes.Proofs.TypeScript.Evaluation
import Mathlib.Data.Set.Insert

namespace OpenApiTypes.TypeScript

variable {g : Globals} {σ σ' σ'' : State} {place : Place} {v w : Value} {e : Expr} {name : String}
  {path F F' : Set Nat}

/-! ### Assignments -/

/-- The cell that a place lies in. -/
def Place.cells : Place → Set Nat
  | named _ => ∅
  | member address _ => {address}

@[simp] lemma Place.cells_named : (Place.named name).cells = ∅ := rfl

@[simp] lemma Place.cells_member {address : Nat} : (Place.member address name).cells = {address} :=
  rfl

namespace State

/-- A member can be read exactly from records. -/
lemma read?_member_eq_some_iff {address : Nat} : σ.read? (.member address name) = some v ↔
    ∃ members, σ.heap[address]? = some (.record members)
      ∧ (members.get? name).getD (.missing name) = v := by
  simp only [read?]
  split
  · rename_i members hcell
    simp [hcell]
  · rename_i hcell
    simp only [reduceCtorEq, false_iff]
    rintro ⟨members, hrecord, -⟩
    exact hcell members hrecord

lemma write_member {address : Nat} {members : Entries String Value}
    (h : σ.heap[address]? = some (.record members)) : σ.write (.member address name) v
      = { σ with heap := σ.heap.set address (.record (members.put name v)) } := by
  simp [write, h]

/-- A value that no record has without a member of its own is that of a member. -/
lemma exists_get?_of_read? {address : Nat} (h : σ.read? (.member address name) = some v)
    (hv : v ≠ .missing name) : ∃ members, σ.heap[address]? = some (.record members)
      ∧ members.get? name = some v := by
  obtain ⟨members, hcell, hmember⟩ := read?_member_eq_some_iff.mp h
  refine ⟨members, hcell, ?_⟩
  cases hget : members.get? name with
  | none => exact absurd (by simpa [hget] using hmember.symm) hv
  | some u => simpa [hget] using hmember

/-- Assigning the value that is there changes nothing. -/
lemma write_of_read? (h : σ.read? place = some v) (hv : ∀ name, v ≠ .missing name) :
    σ.write place v = σ := by
  cases place with
  | named name => simp [write, Entries.put_of_get? h]
  | member address name =>
    obtain ⟨members, hcell, hget⟩ := exists_get?_of_read? h (hv name)
    obtain ⟨_, hcell'⟩ := List.getElem?_eq_some_iff.mp hcell
    rw [write_member hcell, Entries.put_of_get? hget, ← hcell', List.set_getElem_self]

/-- A place that holds a value can be assigned to. -/
lemma isAssignable_of_read? (h : σ.read? place = some v) (hv : ∀ name, v ≠ .missing name) :
    σ.isAssignable place = true := by
  cases place with
  | named name =>
    have hbound : σ.bindings.get? name = some v := h
    simp [isAssignable, Entries.has, hbound]
  | member address name =>
    obtain ⟨members, hcell, hget⟩ := exists_get?_of_read? h (hv name)
    simp [isAssignable, hcell, Entries.has, hget]

@[simp] lemma length_heap_write : (σ.write place v).heap.length = σ.heap.length := by
  cases place with
  | named name => rfl
  | member address name =>
    simp only [write]
    split <;> simp

/-- The cell of a place that can be read lies in the heap. -/
lemma lt_of_read? (h : σ.read? place = some v) {b : Nat} (hb : b ∈ place.cells) :
    b < σ.heap.length := by
  cases place with
  | named name => exact absurd hb (Set.notMem_empty b)
  | member address name =>
    obtain ⟨members, hcell, -⟩ := read?_member_eq_some_iff.mp h
    obtain rfl := Set.mem_singleton_iff.mp hb
    exact (List.getElem?_eq_some_iff.mp hcell).1

/-- An assignment changes no other cell. -/
lemma heap_write {b : Nat} (hb : b ∉ place.cells) : (σ.write place v).heap[b]? = σ.heap[b]? := by
  cases place with
  | named name => rfl
  | member address name =>
    simp only [write]
    split
    · exact List.getElem?_set_ne (Ne.symm hb)
    · rfl

/-- An assignment to a member changes no variable. -/
lemma bindings_write_member {address : Nat} :
    (σ.write (.member address name) v).bindings = σ.bindings := by
  simp only [write]
  split <;> rfl

/-- A place that can be read holds what is assigned to it. -/
lemma read?_write (h : σ.read? place = some v) : (σ.write place w).read? place = some w := by
  cases place with
  | named name => exact Entries.get?_put_self _ _ _
  | member address name =>
    obtain ⟨members, hcell, -⟩ := read?_member_eq_some_iff.mp h
    have hlt := (List.getElem?_eq_some_iff.mp hcell).1
    rw [write_member hcell]
    refine read?_member_eq_some_iff.mpr ⟨members.put name w, by simp [hlt], ?_⟩
    rw [Entries.get?_put_self, Option.getD_some]

/-- The last of two assignments to a place counts. -/
lemma write_write : (σ.write place v).write place w = σ.write place w := by
  cases place with
  | named name => simp [write, Entries.put_put]
  | member address name =>
    by_cases hcell : ∃ members, σ.heap[address]? = some (.record members)
    · obtain ⟨members, hcell⟩ := hcell
      have hlt := (List.getElem?_eq_some_iff.mp hcell).1
      have hnext : (σ.write (.member address name) v).heap[address]?
          = some (.record (members.put name v)) := by
        rw [write_member hcell]
        simp [hlt]
      rw [write_member hnext, write_member hcell, write_member hcell]
      simp [Entries.put_put]
    · have hsame : ∀ u, σ.write (.member address name) u = σ := by
        intro u
        simp only [write]
        split
        · rename_i members hrecord
          exact absurd ⟨members, hrecord⟩ hcell
        · rfl
      rw [hsame, hsame]

end State

/-! ### What is kept -/

/-- A state is another one but for the cells of a set and for new cells. -/
structure Keeps (F : Set Nat) (σ σ' : State) : Prop where
  bindings : σ'.bindings = σ.bindings
  length : σ.heap.length ≤ σ'.heap.length
  cells : ∀ {b c}, b ∉ F → σ.heap[b]? = some c → σ'.heap[b]? = some c

namespace Keeps

lemma refl (F : Set Nat) (σ : State) : Keeps F σ σ := ⟨rfl, le_rfl, fun _ h => h⟩

lemma trans (h : Keeps F σ σ') (h' : Keeps F σ' σ'') : Keeps F σ σ'' :=
  ⟨h'.bindings.trans h.bindings, h.length.trans h'.length,
    fun hb hc => h'.cells hb (h.cells hb hc)⟩

lemma mono (h : Keeps F σ σ') (hF : F ⊆ F') : Keeps F' σ σ' :=
  ⟨h.bindings, h.length, fun hb hc => h.cells (fun hmem => hb (hF hmem)) hc⟩

/-- A second change may reach cells that are new since the first one. -/
lemma trans_of_new (h : Keeps F σ σ') (h' : Keeps F' σ' σ'')
    (hF : ∀ b ∈ F', b ∈ F ∨ σ.heap.length ≤ b) : Keeps F σ σ'' where
  bindings := h'.bindings.trans h.bindings
  length := h.length.trans h'.length
  cells := fun {b c} hb hc => by
    refine h'.cells (fun hmem => ?_) (h.cells hb hc)
    have hlt := (List.getElem?_eq_some_iff.mp hc).1
    exact (hF b hmem).elim hb (by omega)

/-- A new array is no change. -/
lemma newArray (F : Set Nat) (σ : State) (elements : List Value) :
    Keeps F σ (σ.newArray elements).2 where
  bindings := rfl
  length := by simp [State.newArray]
  cells := fun _ hc => by
    have hlt := (List.getElem?_eq_some_iff.mp hc).1
    simpa [State.newArray, List.getElem?_append_left hlt] using hc

/-- An assignment to a member of a cell of the set is no change. -/
lemma write_member {address : Nat} (h : address ∈ F) :
    Keeps F σ (σ.write (.member address name) v) where
  bindings := State.bindings_write_member
  length := by simp
  cells := fun {b c} hb hc => by
    have hne : b ∉ (Place.member address name).cells := by
      rintro rfl
      exact hb h
    rwa [State.heap_write hne]

lemma read? (h : Keeps F σ σ') (hF : ∀ b ∈ place.cells, b ∉ F) (hv : σ.read? place = some v) :
    σ'.read? place = some v := by
  cases place with
  | named name => simpa [State.read?, h.bindings] using hv
  | member address name =>
    obtain ⟨members, hcell, hmember⟩ := State.read?_member_eq_some_iff.mp hv
    exact State.read?_member_eq_some_iff.mpr ⟨members, h.cells (hF _ rfl) hcell, hmember⟩

/-- The same assignment in both states. -/
lemma write (h : Keeps F σ σ') (hF : ∀ b ∈ place.cells, b ∉ F) (hv : σ.read? place = some v) :
    Keeps F (σ.write place w) (σ'.write place w) := by
  cases place with
  | named name => exact ⟨congrArg (Entries.put · name w) h.bindings, h.length, h.cells⟩
  | member address name =>
    obtain ⟨members, hcell, -⟩ := State.read?_member_eq_some_iff.mp hv
    have hcell' := h.cells (hF _ rfl) hcell
    refine ⟨by rw [State.bindings_write_member, State.bindings_write_member, h.bindings],
      by simpa using h.length, fun {b c} hb hc => ?_⟩
    by_cases haddress : b = address
    · subst haddress
      have hlt := (List.getElem?_eq_some_iff.mp hcell).1
      have hlt' := (List.getElem?_eq_some_iff.mp hcell').1
      rw [State.write_member hcell] at hc
      rw [State.write_member hcell']
      simpa [hlt, hlt'] using hc
    · rw [State.heap_write (by simpa using haddress)] at hc ⊢
      exact h.cells hb hc

end Keeps

/-! ### Expressions for places -/

/-- An expression stands for a place, which it finds by the cells of a set. -/
inductive Denotes (σ : State) : Expr → Place → Set Nat → Prop where
  | named (name : String) : Denotes σ (.identifier name) (.named name) ∅
  | member {e : Expr} {place : Place} {path : Set Nat} {address : Nat} (name : String)
      (hobject : Denotes σ e place path) (hread : σ.read? place = some (.object address)) :
      Denotes σ (.property e name) (.member address name) (place.cells ∪ path)

namespace Denotes

lemma lt_length (h : Denotes σ e place path) {b : Nat} (hb : b ∈ path) : b < σ.heap.length := by
  induction h with
  | named name => exact absurd hb (Set.notMem_empty b)
  | member name _ hread ih => exact hb.elim (State.lt_of_read? hread) ih

/-- The value of such an expression is the one at its place. -/
lemma evalExpr_eq (h : Denotes σ e place path) (hv : σ.read? place = some v) :
    evalExpr g e σ = some (v, σ) := by
  induction h generalizing v with
  | named name =>
    simp only [State.read?] at hv
    simp [evalExpr, hv]
  | member name _ hread ih =>
    rw [evalExpr, ih hread]
    simp [Value.address?, hv]

lemma evalPlace_eq (h : Denotes σ e place path) : evalPlace g e σ = some (place, σ) := by
  cases h with
  | named name => rw [evalPlace]
  | member name hobject hread =>
    rw [evalPlace, hobject.evalExpr_eq hread]
    simp [Value.address?]

/-- An assignment of a value that is found without changing the place. -/
lemma evalExpr_assign (h : Denotes σ e place path) (hread : σ.read? place = some v)
    (hv : ∀ name, v ≠ .missing name) {value : Expr}
    (hvalue : evalExpr g value σ = some (w, σ')) (hkeeps : Keeps F σ σ')
    (hF : ∀ b ∈ place.cells, b ∉ F) :
    evalExpr g (.assign e value) σ = some (w, σ'.write place w) := by
  have hplace := State.isAssignable_of_read? (hkeeps.read? hF hread) hv
  rw [evalExpr, h.evalPlace_eq]
  simp [hvalue, hplace]

/-- An expression stands for the same place as long as the cells by which it finds it are kept. -/
lemma of_keeps (h : Denotes σ e place path) (hkeeps : Keeps F σ σ') (hF : ∀ b ∈ path, b ∉ F) :
    Denotes σ' e place path := by
  induction h with
  | named name => exact .named name
  | member name _ hread ih =>
    refine .member name (ih fun b hb => hF b (.inr hb)) (hkeeps.read? (fun b hb => ?_) hread)
    exact hF b (.inl hb)

/-- An assignment to a place does not move it, if the expression finds it by other cells. -/
lemma write (h : Denotes σ e place path) (hpath : ∀ b ∈ path, b ∉ place.cells) :
    Denotes (σ.write place v) e place path := by
  cases h with
  | named name => exact .named name
  | member name hobject hread =>
    exact (Denotes.member name hobject hread).of_keeps
      (Keeps.write_member (Set.mem_singleton _)) hpath

end Denotes

end OpenApiTypes.TypeScript
