/-
Records read from JSON values.

* `Json.record?`: the fields of a record, given as an object or, in order, as an array;
* `Json.required?`, `Json.optional?`, `Json.defaulted?`: a field that must be there, one that may
  be missing or null, and one that may be missing but not null;
* `Json.list?`, `Json.entries?`, `Json.nat?`, `Json.float?`: common kinds of fields;
* `Json.variant?`: a choice among names, given as the name or as an object whose only member has
  that name and is null; for `Json.lenientVariant?` it may be an empty object too.
-/
import OpenApiTypes.Json.Value

namespace OpenApiTypes.Json

/-- The fields of a record. An object has them by name; fields that are not known do not matter.
An array has them in order: at least the first `least`, and no more than there are names. -/
def record? (names : List String) (least : Nat) : Json → Option (Entries String Json)
  | obj members => some members
  | arr items =>
    if least ≤ items.length ∧ items.length ≤ names.length then some (names.zip items) else none
  | _ => none

variable {α : Type}

/-- A field that must be there. -/
def required? (fields : Entries String Json) (name : String) (read : Json → Option α) :
    Option α := do
  read (← Entries.get? fields name)

/-- A value that may be null. -/
def nullable? (read : Json → Option α) : Json → Option (Option α)
  | null => some none
  | v => (read v).map some

/-- A field that may be missing or null. -/
def optional? (fields : Entries String Json) (name : String) (read : Json → Option α) :
    Option (Option α) :=
  match Entries.get? fields name with
  | none => some none
  | some v => nullable? read v

/-- A field that may be missing but not null. -/
def defaulted? (fields : Entries String Json) (name : String) (default : α)
    (read : Json → Option α) : Option α :=
  match Entries.get? fields name with
  | none => some default
  | some v => read v

/-- A list of things. -/
def list? (read : Json → Option α) : Json → Option (List α)
  | arr items => items.mapM read
  | _ => none

/-- Things under keys. -/
def entries? (read : Json → Option α) : Json → Option (Entries String α)
  | obj members => members.mapM fun (key, v) => do some (key, ← read v)
  | _ => none

/-- A natural number; fractions do not count as one. -/
def nat? : Json → Option Nat
  | number n => n.toNat?
  | _ => none

/-- A binary fraction; integers are rounded to one. -/
def float? : Json → Option Binary64
  | number n => some n.toBinary64
  | _ => none

/-- A value of any kind but null. -/
def any? : Json → Option Json := some

/-- A choice among names. -/
def variant? (ofName? : String → Option α) : Json → Option α
  | str s => ofName? s
  | obj [(name, null)] => ofName? name
  | _ => none

/-- A choice among names, for which the only member of an object may be an empty object. -/
def lenientVariant? (ofName? : String → Option α) : Json → Option α
  | obj [(name, obj [])] => ofName? name
  | v => variant? ofName? v

/-! ### Writing -/

/-- A member that is left out when there is no value. -/
def memberIf (name : String) (value : Option Json) : List (String × Json) :=
  match value with
  | some v => [(name, v)]
  | none => []

/-- A member that is left out when it is false. -/
def flag (name : String) (value : Bool) : List (String × Json) :=
  if value then [(name, bool true)] else []

/-- A value, or null. -/
def orNull : Option Json → Json
  | some v => v
  | none => null

end OpenApiTypes.Json
