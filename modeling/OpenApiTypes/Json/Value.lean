/-
Values of JSON with the order of their members kept.

* `Json`: the values;
* `Json.agrees`: equality of values, for which the order of members does not count;
* `Json.member?`: the member of an object;
* `Json.string?`, `Json.bool?`: a value that is a text, or a truth value.
-/
import OpenApiTypes.Entries
import OpenApiTypes.Number.Basic

namespace OpenApiTypes

/-- A JSON value. Readers give each object distinct keys. -/
inductive Json where
  | null
  | bool (value : Bool)
  | number (value : Number)
  | str (value : String)
  | arr (items : List Json)
  | obj (members : List (String × Json))
deriving Repr

namespace Json

instance : Inhabited Json := ⟨null⟩

mutual

/-- Equality of values. Two objects agree when they have equally many members and each member
of the first agrees with the member of the second under the same key. -/
def agrees : Json → Json → Bool
  | null, null => true
  | bool a, bool b => a == b
  | number a, number b => a.agrees b
  | str a, str b => a == b
  | arr a, arr b => agreesItems a b
  | obj a, obj b => a.length == b.length && agreesMembers a b
  | _, _ => false

/-- Lists agree item by item. -/
def agreesItems : List Json → List Json → Bool
  | [], [] => true
  | a :: as, b :: bs => a.agrees b && agreesItems as bs
  | _, _ => false

/-- Each member of the first list agrees with its namesake in the second. -/
def agreesMembers : List (String × Json) → List (String × Json) → Bool
  | [], _ => true
  | (key, value) :: rest, others =>
    (match List.lookup key others with
      | some other => value.agrees other
      | none => false) && agreesMembers rest others

end

/-- The member of an object under a key; nothing for other values. -/
def member? (key : String) : Json → Option Json
  | obj members => Entries.get? members key
  | _ => none

/-- The text of a string. -/
def string? : Json → Option String
  | str s => some s
  | _ => none

/-- The truth value of a boolean. -/
def bool? : Json → Option Bool
  | bool b => some b
  | _ => none

/-- An object from its members. -/
def ofMembers (members : List (String × Json)) : Json := obj members

/-- A list of strings. -/
def strings (texts : List String) : Json := arr (texts.map str)

/-- A natural number. -/
def nat (n : Nat) : Json := number (.int n)

/-- A binary fraction. -/
def float (x : Binary64) : Json := number (.float x)

end Json

end OpenApiTypes
