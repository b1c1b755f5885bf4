/-
What generated functions do.

* `TypeScript.Value`, `TypeScript.Cell`: values, and what records and arrays hold. Records and
  arrays are known by their addresses, so that they are shared;
* `TypeScript.inheritedNames`: the members that a record inherits beside its own;
* `TypeScript.State`: the variables of a function and the heap;
* `TypeScript.Globals`: what is known outside of functions;
* `TypeScript.evalExpr`, `TypeScript.evalStmts`: evaluation. It has no result where JavaScript
  throws, none for a date of null or undefined, and none for what is not generated;
* `TypeScript.globals`: the functions of a module, for calls that nest at most so deep.
-/
import OpenApiTypes.Entries
import OpenApiTypes.Number.Basic
import OpenApiTypes.Proofs.TypeScript.Mentions
import Std.Data.String.ToInt

namespace OpenApiTypes.TypeScript

/-! ### Values -/

/-- A value that cannot be changed in place. -/
inductive Scalar where
  | null
  | bool (value : Bool)
  | number (value : Number)
  | string (text : String)
  | bigint (value : Int)
  /-- A date, by the text that it was made of. -/
  | date (text : String)
deriving DecidableEq, Repr

/-- The members of `Object.prototype`. -/
def inheritedNames : List String :=
  ["constructor", "hasOwnProperty", "isPrototypeOf", "propertyIsEnumerable", "toLocaleString",
    "toString", "valueOf", "__defineGetter__", "__defineSetter__", "__lookupGetter__",
    "__lookupSetter__", "__proto__"]

/-- A value. -/
inductive Value where
  | undefined
  | scalar (value : Scalar)
  /-- A record or an array. -/
  | object (address : Nat)
  /-- What every record inherits under a name: a function, or `Object.prototype` itself. -/
  | inherited (name : String)
deriving DecidableEq, Repr

namespace Value

/-- What a record without a member of its own has under a name. -/
def missing (name : String) : Value :=
  if name ∈ inheritedNames then inherited name else undefined

/-- What every record inherits under a name, as a text. -/
def inheritedText (name : String) : String :=
  if name = "__proto__" then "[object Object]"
  else "function " ++ (if name = "constructor" then "Object" else name)
    ++ "() \x7b [native code] \x7d"

/-- The address of a record or an array. -/
def address? : Value → Option Nat
  | object address => some address
  | _ => none

/-- Whether a value is undefined or null. -/
def isNullish : Value → Bool
  | undefined | scalar .null => true
  | _ => false

/-- Whether two values are the same, of which one is undefined or null. -/
def same? (v w : Value) : Option Bool :=
  if v.isNullish || w.isNullish then some (decide (v = w)) else none

/-- The truth value of a condition. -/
def condition? : Value → Option Bool
  | scalar (.bool b) => some b
  | _ => none

/-- The long integer of a text of digits. -/
def toBigint? : Value → Option Value
  | scalar (.string text) => text.toInt?.map fun i => scalar (.bigint i)
  | _ => none

/-- The date of a text, or of another date. What is inherited counts as its text. -/
def toDate? : Value → Option Value
  | scalar (.string text) | scalar (.date text) => some (scalar (.date text))
  | inherited name => some (scalar (.date (inheritedText name)))
  | _ => none

end Value

/-- What lies at an address. -/
inductive Cell where
  | record (members : Entries String Value)
  | array (elements : List Value)
deriving Repr

/-- The cells by their addresses. -/
abbrev Heap := List Cell

/-! ### States -/

/-- The variables of a function, the innermost first, and the heap. -/
structure State where
  bindings : Entries String Value
  heap : Heap
deriving Repr

/-- What an assignment can change. -/
inductive Place where
  | named (name : String)
  | member (address : Nat) (name : String)
deriving DecidableEq, Repr

namespace State

/-- The value at a place. -/
def read? (σ : State) : Place → Option Value
  | .named name => σ.bindings.get? name
  | .member address name =>
    match σ.heap[address]? with
    | some (.record members) => some ((members.get? name).getD (.missing name))
    | _ => none

/-- Whether a place can be assigned to. An assignment to an inherited `__proto__` would not give the
record a member of its own. -/
def isAssignable (σ : State) : Place → Bool
  | .named name => σ.bindings.has name
  | .member address name =>
    match σ.heap[address]? with
    | some (.record members) => members.has name || name != "__proto__"
    | _ => false

/-- The state with another value at a place. -/
def write (σ : State) : Place → Value → State
  | .named name, v => { σ with bindings := σ.bindings.put name v }
  | .member address name, v =>
    match σ.heap[address]? with
    | some (.record members) =>
      { σ with heap := σ.heap.set address (.record (members.put name v)) }
    | _ => σ

/-- The elements of an array. -/
def elements? (σ : State) (address : Nat) : Option (List Value) :=
  match σ.heap[address]? with
  | some (.array elements) => some elements
  | _ => none

/-- A new array. -/
def newArray (σ : State) (elements : List Value) : Value × State :=
  (.object σ.heap.length, { σ with heap := σ.heap ++ [.array elements] })

/-- The state inside a function with a parameter. -/
def enter (σ : State) (parameter : String) (v : Value) : State :=
  { σ with bindings := (parameter, v) :: σ.bindings }

/-- The state after such a function. -/
def leave (σ : State) : State := { σ with bindings := σ.bindings.tail }

end State

/-- What is known outside of functions: functions by name, and how numbers are written. -/
structure Globals where
  /-- The names that the module declares. -/
  declared : List String
  call : String → Value → Heap → Option (Value × Heap)
  numberText : Number → String

/-- A name that neither the function nor the module gives a meaning of its own. -/
def Globals.isBuiltin (g : Globals) (σ : State) (name : String) : Bool :=
  !σ.bindings.has name && !g.declared.contains name

/-! ### Evaluation -/

/-- Applies a function to so many elements of an array from an index on. They are looked up one
after the other, when their turn comes. -/
def mapElements (apply : Value → State → Option (Value × State)) (address : Nat) :
    Nat → Nat → State → Option (List Value × State)
  | 0, _, σ => some ([], σ)
  | count + 1, index, σ => do
    let v ← (← σ.elements? address)[index]?
    let (w, σ) ← apply v σ
    let (ws, σ) ← mapElements apply address count (index + 1) σ
    some (w :: ws, σ)

mutual

/-- The value of an expression, and the state after it. -/
def evalExpr (g : Globals) : Expr → State → Option (Value × State)
  | .identifier name, σ =>
    match σ.bindings.get? name with
    | some v => some (v, σ)
    | none => if name = "undefined" ∧ g.isBuiltin σ name then some (.undefined, σ) else none
  | .literal .null, σ => some (.scalar .null, σ)
  | .property object name, σ => do
    let (v, σ) ← evalExpr g object σ
    let w ← σ.read? (.member (← v.address?) name)
    some (w, σ)
  | .call (.property object method) arguments, σ => do
    let (v, σ) ← evalExpr g object σ
    evalMethod g v method arguments σ
  | .call (.identifier name) [argument], σ => do
    let (v, σ) ← evalExpr g argument σ
    if σ.bindings.has name then none
    else if g.declared.contains name then do
      let (w, heap) ← g.call name v σ.heap
      some (w, { σ with heap })
    else if name = "BigInt" then do
      some (← v.toBigint?, σ)
    else none
  | .construct (.identifier name) [argument], σ => do
    let (v, σ) ← evalExpr g argument σ
    if name = "Date" ∧ g.isBuiltin σ name then some (← v.toDate?, σ) else none
  | .assign target value, σ => do
    let (place, σ) ← evalPlace g target σ
    let (v, σ) ← evalExpr g value σ
    if σ.isAssignable place then some (v, σ.write place v) else none
  | .binary left .strictUnequal right, σ => do
    let (v, σ) ← evalExpr g left σ
    let (w, σ) ← evalExpr g right σ
    some (.scalar (.bool (!(← v.same? w))), σ)
  | .binary left .and right, σ => do
    let (v, σ) ← evalExpr g left σ
    if ← v.condition? then evalExpr g right σ else some (v, σ)
  | _, _ => none

/-- The place that an assignment to an expression changes. -/
def evalPlace (g : Globals) : Expr → State → Option (Place × State)
  | .identifier name, σ => some (.named name, σ)
  | .property object name, σ => do
    let (v, σ) ← evalExpr g object σ
    some (.member (← v.address?) name, σ)
  | _, _ => none

/-- The value of a call of a method. -/
def evalMethod (g : Globals) (v : Value) (method : String) :
    List Expr → State → Option (Value × State)
  | [], σ =>
    match v with
    | .scalar (.number n) =>
      if method = "toString" then some (.scalar (.string (g.numberText n)), σ) else none
    | .scalar (.bigint i) =>
      if method = "toString" then some (.scalar (.string (toString i)), σ) else none
    | .inherited name =>
      if method = "toString" then some (.scalar (.string (Value.inheritedText name)), σ) else none
    | _ => none
  | [.arrow false [parameter] _ body], σ =>
    if method = "map" then do
      let address ← v.address?
      let elements ← σ.elements? address
      let apply v σ := do
        let (result, σ) ← evalStmts g body (σ.enter parameter.name v)
        some (result.getD .undefined, σ.leave)
      let (ws, σ) ← mapElements apply address elements.length 0 σ
      some (σ.newArray ws)
    else none
  | _, _ => none

/-- The state after a statement, and the value that it returned, if it did. -/
def evalStmt (g : Globals) : Stmt → State → Option (Option Value × State)
  | .expr e, σ => do
    let (_, σ) ← evalExpr g e σ
    some (none, σ)
  | .ret (some e), σ => do
    let (v, σ) ← evalExpr g e σ
    some (some v, σ)
  | .cond condition body, σ => do
    let (v, σ) ← evalExpr g condition σ
    if ← v.condition? then evalStmts g body σ else some (none, σ)
  | _, _ => none

/-- The state after statements, and the value that one of them returned. -/
def evalStmts (g : Globals) : List Stmt → State → Option (Option Value × State)
  | [], σ => some (none, σ)
  | s :: rest, σ => do
    let (result, σ) ← evalStmt g s σ
    if result.isSome then some (result, σ) else evalStmts g rest σ

end

/-! ### Modules -/

/-- The function that a statement declares under a name: its parameter and its body. -/
def Stmt.function? (name : String) : Stmt → Option (String × List Stmt)
  | .const n _ _ (.arrow _ [parameter] _ body) _ =>
    if n = name then some (parameter.name, body) else none
  | _ => none

/-- Calls a function with one parameter. -/
def applyFunction (g : Globals) (function : String × List Stmt) (v : Value) (heap : Heap) :
    Option (Value × Heap) := do
  let (result, σ) ← evalStmts g function.2 ⟨[(function.1, v)], heap⟩
  some (result.getD .undefined, σ.heap)

/-- The globals of a module, for calls that nest at most so deep. A function that is `async` gives
a promise of its value, for which the value stands here. -/
def globals (numberText : Number → String) (module : List Stmt) : Nat → Globals
  | 0 => ⟨constNames module, fun _ _ _ => none, numberText⟩
  | depth + 1 =>
    ⟨constNames module, fun name v heap => do
      let function ← module.findSome? (Stmt.function? name)
      applyFunction (globals numberText module depth) function v heap, numberText⟩

end OpenApiTypes.TypeScript
