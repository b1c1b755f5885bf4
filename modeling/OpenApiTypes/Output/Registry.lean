/-
Names in generated files, free of collisions.

* `Output.Namespace`: types and values, whose names do not collide with each other;
* `Output.Registry`: the names given for references, file by file;
* `Output.Registry.request`: the name for a reference. The first request creates it; a name that
  is taken gets a number;
* `Output.Registry.suppress`: withdraws a name whose declaration turned out to be empty. It stays
  taken.
-/
import OpenApiTypes.Entries
import OpenApiTypes.Naming.Convention
import OpenApiTypes.Naming.Fresh
import OpenApiTypes.Pointer

namespace OpenApiTypes.Output

/-- Types and values have names of their own. -/
inductive Namespace where
  | type
  | value
deriving DecidableEq, Repr

/-- The word for a namespace. -/
def Namespace.name : Namespace → String
  | type => "type"
  | value => "value"

/-- What became of a reference. -/
inductive Entry where
  | active (name : String)
  /-- The name was withdrawn. -/
  | suppressed (name : String)
deriving DecidableEq, Repr

/-- The name that was given, withdrawn or not. -/
def Entry.name : Entry → String
  | active name => name
  | suppressed name => name

/-- The answer to a request for a name. -/
inductive Identifier where
  /-- No name was ever given. -/
  | unresolved
  /-- The name, and whether this request created it. -/
  | active (name : String) (created : Bool)
  /-- The name was withdrawn; nothing is declared under it. -/
  | suppressed
deriving DecidableEq, Repr

namespace Identifier

/-- The name, if there is one. -/
def name? : Identifier → Option String
  | active name _ => some name
  | _ => none

/-- Whether the request created the name. -/
def isCreated : Identifier → Bool
  | active _ created => created
  | _ => false

end Identifier

/-- The names of one namespace of a file. -/
structure Scope where
  entries : Entries String Entry := []
  /-- The names given so far, in small letters. -/
  taken : List String := []
deriving Repr

/-- The names of a file. -/
structure FileScope where
  convention : NamingConvention
  types : Scope := {}
  values : Scope := {}
deriving Repr

namespace FileScope

/-- The names of a namespace. -/
def scope (f : FileScope) : Namespace → Scope
  | .type => f.types
  | .value => f.values

/-- The file with other names in a namespace. -/
def setScope (f : FileScope) (ns : Namespace) (s : Scope) : FileScope :=
  match ns with
  | .type => { f with types := s }
  | .value => { f with values := s }

end FileScope

/-- The names given so far, by file. -/
abbrev Registry := Entries String FileScope

namespace Registry

/-! ### Choosing a name -/

/-- Words that the language keeps, and globals that generated code refers to. -/
def reserved : List String :=
  ["any", "arguments", "as", "async", "await", "boolean", "break", "case", "catch", "class",
    "const", "continue", "debugger", "declare", "default", "delete", "do", "else", "enum", "eval",
    "export", "extends", "false", "finally", "for", "from", "function", "if", "implements",
    "import", "in", "instanceof", "interface", "let", "new", "null", "number", "of", "package",
    "private", "protected", "public", "return", "static", "string", "super", "switch", "symbol",
    "this", "throw", "true", "try", "type", "typeof", "undefined", "var", "void", "while", "with",
    "yield", "Array", "BigInt", "Blob", "Date", "File", "Promise", "Record"]

/-- The name that a reference asks for: its last part under the convention of the file. -/
def baseName (pointer : String) (convention : NamingConvention) : String :=
  let name := convention.apply (Pointer.lastName pointer)
  if reserved.contains name then "_" ++ name else name

/-- Whether a name is taken; capitals do not count. -/
def isTaken (taken : List String) (name : String) : Bool := taken.contains (Text.lowercase name)

/-- A name that is not taken: the base, or the base with a number from two on. -/
def uniqueName (taken : List String) (base : String) : String :=
  if isTaken taken base then
    Naming.firstFree (isTaken taken) (fun n => base ++ toString n) taken.length
  else base

/-! ### Requests -/

/-- Sets the convention of names created in a file from now on. -/
def registerFile (r : Registry) (file : String) (convention : NamingConvention) : Registry :=
  match r.get? file with
  | some f => r.put file { f with convention }
  | none => r.put file { convention }

/-- What became of a reference. -/
def status? (r : Registry) (pointer : String) (ns : Namespace) (file : String) : Option Entry := do
  ((← r.get? file).scope ns).entries.get? pointer

/-- Creates the name of a reference. A file without a convention keeps names as they are. -/
def create (r : Registry) (pointer : String) (ns : Namespace) (file : String) :
    String × Registry :=
  let f := (r.get? file).getD { convention := .preserve }
  let scope := f.scope ns
  let name := uniqueName scope.taken (baseName pointer f.convention)
  let scope := {
    entries := scope.entries.put pointer (.active name)
    taken := Text.lowercase name :: scope.taken }
  (name, r.put file (f.setScope ns scope))

/-- The name for a reference; it is created, if that is wished, when there is none. -/
def request (r : Registry) (pointer : String) (ns : Namespace) (file : String)
    (creates : Bool) : Identifier × Registry :=
  match r.status? pointer ns file with
  | some (.active name) => (.active name false, r)
  | some (.suppressed _) => (.suppressed, r)
  | none =>
    if creates then
      let (name, r) := r.create pointer ns file
      (.active name true, r)
    else (.unresolved, r)

/-- The name of a reference, without creating one. -/
def name? (r : Registry) (pointer : String) (ns : Namespace) (file : String) : Option String :=
  match r.status? pointer ns file with
  | some (.active name) => some name
  | _ => none

/-- Withdraws the name of a reference; nothing if there was none. -/
def suppress? (r : Registry) (pointer : String) (ns : Namespace) (file : String) :
    Option Registry := do
  let f ← r.get? file
  let scope := f.scope ns
  let entry ← scope.entries.get? pointer
  let entries := scope.entries.put pointer (.suppressed entry.name)
  some (r.put file (f.setScope ns { scope with entries }))

end Registry

end OpenApiTypes.Output
