/-
References followed through a document.

* `Reference.step?`: the member or item under a key;
* `Reference.resolve`: the node a pointer leads to;
* `Reference.target?`: the pointer a node refers on to;
* `Reference.allPointers`: every pointer that some node of a document refers on to;
* `Reference.follow`: the node at the end of a chain of references, and the last pointer of the
  chain. A chain that repeats a pointer is circular.
-/
import OpenApiTypes.Json.Value
import OpenApiTypes.Number.Numeral
import OpenApiTypes.Pointer

namespace OpenApiTypes.Reference

/-- The position a key denotes: decimal digits, with or without a plus sign, that fit 64 bits. -/
def position? (key : String) : Option Nat :=
  let digits := match key.toList with
    | '+' :: r => r
    | r => r
  let n := Numeral.ofDigits (Numeral.leadingDigits digits)
  if digits.isEmpty || !(Numeral.afterDigits digits).isEmpty || Nat.pow 2 64 ≤ n then none
  else some n

/-- The member of an object or the item of an array under a key. -/
def step? (key : String) : Json → Option Json
  | .obj members => Entries.get? members key
  | .arr items => do items[← position? key]?
  | _ => none

/-- The node that keys lead to, or the first key that leads nowhere. -/
def walk : List String → Json → Except String Json
  | [], node => .ok node
  | key :: keys, node =>
    match step? key node with
    | some next => walk keys next
    | none => .error key

/-- The node a pointer leads to. References on the way are not followed. -/
def resolve (document : Json) (pointer : String) : Except ReferenceError Json := do
  let keys ← Pointer.segments? pointer
  match walk keys document with
  | .ok node => .ok node
  | .error key => .error (.missing pointer key)

/-- The pointer a node refers on to. -/
def target? (node : Json) : Option String := (node.member? "$ref").bind Json.string?

/-! ### The pointers of a document -/

mutual

/-- Every pointer that a node below this one, or the node itself, refers on to. -/
def allPointers : Json → List String
  | .obj members => (target? (.obj members)).toList ++ memberPointers members
  | .arr items => itemPointers items
  | _ => []

/-- The pointers of a list of items. -/
def itemPointers : List Json → List String
  | [] => []
  | v :: rest => allPointers v ++ itemPointers rest

/-- The pointers of a list of members. -/
def memberPointers : List (String × Json) → List String
  | [] => []
  | (_, v) :: rest => allPointers v ++ memberPointers rest

end

/-! ### Chains -/

/-- The pointers other than one. -/
def without (pointer : String) (pointers : List String) : List String :=
  pointers.filter fun p => p != pointer

theorem mem_without {p pointer : String} {pointers : List String} :
    p ∈ without pointer pointers ↔ p ∈ pointers ∧ p ≠ pointer := by
  simp [without]

theorem length_without_lt {pointer : String} {pointers : List String} (h : pointer ∈ pointers) :
    (without pointer pointers).length < pointers.length :=
  List.length_filter_lt_length_iff_exists.mpr ⟨pointer, h, by simp⟩

/-- Follows a chain that began at `start` and has reached `current`. `fresh` holds the pointers
that may still be visited; a pointer that is not among them has been visited before. -/
def followFrom (document : Json) (start current : String) (fresh : List String) :
    Except ReferenceError (String × Json) :=
  if _ : current ∈ fresh then do
    let node ← resolve document current
    match target? node with
    | some next => followFrom document start next (without current fresh)
    | none => .ok (current, node)
  else .error (.circular start)
termination_by fresh.length
decreasing_by exact length_without_lt ‹_›

/-- The end of the chain of references that begins at a pointer, with the pointer that led to it.
Only pointers of the document can come after the first one. -/
def follow (document : Json) (pointer : String) : Except ReferenceError (String × Json) :=
  followFrom document pointer pointer (pointer :: allPointers document)

/-- Follows a pointer and reads what it leads to. -/
def read {α : Type} (ofJson? : Json → Option α) (document : Json) (pointer : String) :
    Except ReferenceError α := do
  let (last, node) ← follow document pointer
  match ofJson? node with
  | some value => .ok value
  | none => .error (.mismatch last)

end OpenApiTypes.Reference
