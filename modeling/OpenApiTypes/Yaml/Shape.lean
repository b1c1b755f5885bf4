/-
YAML read with an expectation.

* `Yaml.Shape`: what kind of thing is expected;
* `Yaml.Scalar.shaped?`: the value of a scalar that is as expected. One that is not written may
  stand for an empty collection;
* `Yaml.Options`: what a thing of some kind says of itself, by names, by places or in order;
* `Yaml.Document.shaped`: the value of a node that is as expected. What stands under names that are
  not known is not looked at;
* `Yaml.readShaped?`: the value of a text.
-/
import OpenApiTypes.Yaml.Data

namespace OpenApiTypes.Yaml

/-- What kind of thing is expected. -/
inductive Shape where
  | leaf (l : Leaf)
  | list (item : Shape)
  /-- Things under keys that are not known beforehand. -/
  | dictionary (value : Shape)
  /-- Things under known names. -/
  | record (fields : List (String × Shape))
  /-- A thing of one of several kinds, told by the member of a name or by the first item. The kinds
  have options of their own. -/
  | tagged (tag : String) (kinds : List (String × List (String × Leaf)))
deriving Repr

/-- The value of a scalar that is as expected. -/
def Scalar.shaped? (s : Scalar) : Shape → Option Json
  | .leaf l => s.leaf? l
  | .list _ => if s.isEmpty then some (.arr []) else none
  | .dictionary _ | .record _ => if s.isEmpty then some (.obj []) else none
  | .tagged _ _ => none

/-! ### Things of several kinds -/

/-- What a thing says of itself besides its kind. -/
inductive Options where
  /-- In the order of the options. -/
  | inOrder (items : List Data)
  /-- By the names of the options or their places. -/
  | byName (pairs : List (Data × Data))

namespace Options

/-- The options that are meant, with their values. Options that are not known do not matter, but
their keys must be texts or natural numbers. -/
def members? (fields : List (String × Leaf)) : Options → Option (List (String × Json))
  | inOrder items =>
    if items.length ≤ fields.length then
      (fields.zip items).mapM fun ((name, leaf), value) => do some (name, ← value.leaf? leaf)
    else none
  | byName pairs => do
    let members ← pairs.mapM fun (key, value) =>
      match key with
      | .atom (.text _) | .atom (.natural _) =>
        match key.name? (fields.map Prod.fst) with
        | some name => do
          some (some (name, ← value.leaf? (← fields.lookup name)))
        | none => some none
      | _ => none
    some (members.filterMap id)

/-- The options of a thing of a kind. None may be repeated. -/
def ofKind? (fields : List (String × Leaf)) (options : Options) :
    Option (List (String × Json)) := do
  let members ← options.members? fields
  if (members.map Prod.fst).Nodup then some members else none

end Options

/-- Whether data is a certain text. -/
def Data.isText (s : String) : Data → Bool
  | .atom (.text t) => s == t
  | _ => false

/-- Something said of a thing: its kind, or an option. -/
inductive Saying where
  | kind (name : String)
  | option (key value : Data)

namespace Saying

/-- The kind, if it is said. -/
def kind? : Saying → Option String
  | kind name => some name
  | option _ _ => none

/-- The option, if it is one. -/
def option? : Saying → Option (Data × Data)
  | kind _ => none
  | option key value => some (key, value)

end Saying

namespace Document

/-- The kind of a thing that is no alias, and its options. The kind is a text, whatever it looks
like. -/
def kindAndOptions (d : Document) (levels : Nat) (tag : String) (n : Node) :
    Lookup (String × Options) :=
  match n with
  | .sequence t (first :: rest) =>
    if isLocalTag t then failure
    else do return (← d.text first, .inOrder (← rest.mapM (d.data levels)))
  | .mapping t pairs =>
    if isLocalTag t then failure
    else do
      let sayings ← pairs.mapM fun (key, value) => do
        let key ← d.data levels key
        if key.isText tag then return Saying.kind (← d.text value)
        else return Saying.option key (← d.data levels value)
      match sayings.filterMap Saying.kind? with
      | [kind] => return (kind, .byName (sayings.filterMap Saying.option?))
      | _ => failure
  | _ => failure

/-- The value of a thing of one of several kinds that is no alias. -/
def tagged (d : Document) (levels : Nat) (tag : String)
    (kinds : List (String × List (String × Leaf))) (n : Node) : Lookup Json := do
  let (kind, options) ← d.kindAndOptions levels tag n
  let fields ← liftM (kinds.lookup kind)
  return .obj ((tag, .str kind) :: (← liftM (options.ofKind? fields)))

/-- The value of a node that is as expected and whose collections nest at most so deep. No known
name may be repeated in a record. -/
def shaped (d : Document) : Nat → Shape → Node → Lookup Json
  | 0, shape, n => do
    match ← d.target n with
    | .scalar s => liftM (s.shaped? shape)
    | _ => failure
  | levels + 1, shape, n => do
    match ← d.target n, shape with
    | .scalar s, shape => liftM (s.shaped? shape)
    | .sequence _ items, .list item => return .arr (← items.mapM (shaped d levels item))
    | .mapping _ pairs, .dictionary value =>
      return .obj (Entries.ofPairs (← pairs.mapM fun (key, v) => do
        return (← d.text key, ← shaped d levels value v)))
    | .mapping _ pairs, .record fields =>
      let members ← pairs.mapM fun (key, v) => do
        let name ← d.text key
        match fields.lookup name with
        | some shape => return some (name, ← shaped d levels shape v)
        | none => return none
      let members := members.filterMap id
      if (members.map Prod.fst).Nodup then return .obj members else failure
    | n, .tagged tag kinds => d.tagged levels tag kinds n
    | _, _ => failure

end Document

/-- The value of a text that is as expected. A text that holds nothing but comments is an empty
record. -/
def readShaped? (shape : Shape) (text : String) : Option Json := do
  match ← Document.ofText? text with
  | none => some (.obj [])
  | some d => (·.1) <$> (d.shaped Document.maxNesting shape d.root).run d.lookups

end OpenApiTypes.Yaml
