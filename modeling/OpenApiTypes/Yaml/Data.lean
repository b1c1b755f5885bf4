/-
What nodes stand for where nothing in particular is expected of them.

* `Yaml.Data`: atoms, lists, and mappings with keys of any kind, which may be repeated;
* `Yaml.Document.data`: the data of a node of a document;
* `Yaml.Leaf`: what kind of single value may be expected of data, or of a scalar;
* `Yaml.Data.leaf?`, `Yaml.Scalar.leaf?`: the value, if it is as expected.
-/
import OpenApiTypes.Yaml.Value

namespace OpenApiTypes.Yaml

/-- What a node stands for. -/
inductive Data where
  | atom (a : Atom)
  | list (items : List Data)
  | mapping (pairs : List (Data × Data))
deriving Repr

instance : Inhabited Data := ⟨.atom .null⟩

namespace Document

/-- The data of a node whose collections nest at most so deep. Collections and scalars with tags
that documents define for themselves have none. -/
def data (d : Document) : Nat → Node → Lookup Data
  | 0, n => do
    match ← d.target n with
    | .scalar s => return .atom (← liftM s.atom?)
    | _ => failure
  | levels + 1, n => do
    match ← d.target n with
    | .scalar s => return .atom (← liftM s.atom?)
    | .sequence tag items =>
      if isLocalTag tag then failure else return .list (← items.mapM (data d levels))
    | .mapping tag pairs =>
      if isLocalTag tag then failure
      else return .mapping (← pairs.mapM fun (key, value) => do
        return (← data d levels key, ← data d levels value))
    | .aliasOf _ => failure

/-- The text of a node, which must be a scalar, whatever it looks like. -/
def text (d : Document) (n : Node) : Lookup String := do
  match ← d.target n with
  | .scalar s => return s.text
  | _ => failure

end Document

/-! ### Single values -/

/-- What kind of single value is expected. -/
inductive Leaf where
  | text
  | boolean
  /-- One of several names. -/
  | choice (names : List String)
deriving DecidableEq, Repr

/-- A name, if it is one of several. -/
def nameIn? (names : List String) (s : String) : Option String :=
  if names.contains s then some s else none

namespace Data

/-- Whether nothing is said. -/
def isVoid : Data → Bool
  | atom .null => true
  | mapping [] => true
  | _ => false

/-- The name that is meant by a text or by its place among several names. -/
def name? (names : List String) : Data → Option String
  | atom (.text s) => nameIn? names s
  | atom (.natural i) => names[i]?
  | _ => none

/-- A single value, if it is as expected. A name may be a text, or the only key of a mapping in
which nothing is said under it. -/
def leaf? : Leaf → Data → Option Json
  | .text, atom (.text s) => some (.str s)
  | .boolean, atom (.bool b) => some (.bool b)
  | .choice names, atom (.text s) => (nameIn? names s).map .str
  | .choice names, mapping [(key, value)] =>
    if value.isVoid then (key.name? names).map .str else none
  | _, _ => none

end Data

namespace Scalar

/-- Whether a scalar is not written at all. -/
def isEmpty (s : Scalar) : Bool := s.form == .plain && s.text.isEmpty

/-- Whether a scalar that may have a tag of its own says nothing. -/
def isVoid (s : Scalar) : Bool := s.form == .plain && (s.text.isEmpty || isNull s.text)

/-- The truth value of a scalar without quotes, or of one in whole lines that is tagged so. -/
def bool? (s : Scalar) : Option Bool :=
  if s.form == .plain || (s.form == .literal && s.tag == some (standardTags ++ "bool")) then
    Yaml.bool? s.text
  else none

/-- The name that a scalar stands for: what follows the exclamation mark of its tag, if it says
nothing else, or its text. -/
def name? (s : Scalar) : Option String :=
  match (s.tag.map String.toList).bind (Text.stripPrefix? ['!']) with
  | some name => if s.isVoid then some (String.ofList name) else none
  | none => some s.text

/-- A single value, if it is as expected. Where a text is expected, a scalar keeps its text even if
it looks like something else. -/
def leaf? (s : Scalar) : Leaf → Option Json
  | .text => some (.str s.text)
  | .boolean => s.bool?.map .bool
  | .choice names => do (nameIn? names (← s.name?)).map .str

end Scalar

end OpenApiTypes.Yaml
