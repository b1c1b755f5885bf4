/-
YAML documents as trees of nodes.

* `Yaml.Node`: scalars, collections and aliases;
* `Yaml.Document`: a tree and the nodes that aliases stand for;
* `Yaml.Document.ofTokens?`: the document of a list of tokens, of which there may be one at most;
* `Yaml.Document.expand?`: the tree with aliases replaced by what they stand for.
-/
import OpenApiTypes.Entries
import OpenApiTypes.Yaml.Token

namespace OpenApiTypes.Yaml

/-- A scalar as it is written. -/
structure Scalar where
  text : String
  form : Form
  tag : Option String
deriving DecidableEq, Repr

/-- A node. -/
inductive Node where
  | scalar (s : Scalar)
  | sequence (tag : Option String) (items : List Node)
  | mapping (tag : Option String) (pairs : List (Node × Node))
  /-- Stands for the node that bears a number. -/
  | aliasOf (number : Nat)
deriving Repr

instance : Inhabited Node := ⟨.aliasOf 0⟩

/-- A document. -/
structure Document where
  root : Node
  /-- The nodes that bear numbers. -/
  anchored : Entries Nat Node
deriving Repr

/-! ### Reading -/

/-- What is known while tokens are read. -/
structure Reading where
  tokens : List Token
  /-- What the handles of tags stand for. -/
  handles : Entries String String := standardHandles
  /-- The number that a name stands for at present. -/
  names : Entries String Nat := []
  /-- Which of the nodes that have been given a name bears a number at present. -/
  bearers : Entries Nat Nat := []
  /-- The nodes that have been given a name. -/
  named : Entries Nat Node := []
  /-- How many they are, those included that are not complete yet. -/
  count : Nat := 0

/-- A step of reading. -/
abbrev Reader := StateT Reading Option

namespace Reader

/-- The next token. -/
def peek : Reader (Option Token) := do return (← get).tokens.head?

/-- Takes up the next token. -/
def skip : Reader Unit := modify fun r => { r with tokens := r.tokens.tail }

/-- Whether the next token is one of several. -/
def next (tokens : List Token) : Reader Bool := do
  return match ← peek with
    | some t => tokens.contains t
    | none => false

/-- Takes up the next token, which must be a certain one. -/
def expect (token : Token) : Reader Unit := do
  if (← peek) == some token then skip else failure

/-- A scalar that is not written at all. -/
def emptyScalar (tag : Option String) : Node := .scalar ⟨"", .plain, tag⟩

/-- The name of a node. -/
def anchor? : Reader (Option String) := do
  match ← peek with
  | some (.anchor name) => do
    skip
    return some name
  | _ => return none

/-- The tag of a node. -/
def tag? : Reader (Option String) := do
  match ← peek with
  | some (.tag tag) => do
    skip
    return some (← liftM (tag.name? (← get).handles))
  | _ => return none

/-- The name and the tag of a node, in either order. -/
def properties : Reader (Option String × Option String) := do
  match ← anchor? with
  | some name => return (some name, ← tag?)
  | none =>
    match ← tag? with
    | some tag => return (← anchor?, some tag)
    | none => return (none, none)

/-- Gives a name to the node that follows; the result tells the place of the node among those that
have one. The name stands from now on for as large a number as there were different names so far,
and the node bears that number until another one is given it. -/
def declare (name : String) : Reader Nat := do
  let r ← get
  let number := r.names.length
  set { r with
    names := r.names.put name number
    bearers := r.bearers.put number r.count
    count := r.count + 1 }
  return r.count

/-- Stores a node that has been given a name. -/
def store (place : Option Nat) (node : Node) : Reader Unit :=
  match place with
  | some n => modify fun r => { r with named := r.named.put n node }
  | none => pure ()

/-- The nodes that bear numbers. -/
def bearing (r : Reading) : Entries Nat Node :=
  r.bearers.filterMap fun (number, place) => (r.named.get? place).map fun n => (number, n)

/-- The node that a name stands for. -/
def aliasOf (name : String) : Reader Node := do
  match (← get).names.get? name with
  | some number => return .aliasOf number
  | none => failure

/-- A node, unless one of certain tokens shows that it is not written. -/
def nodeUnless (tokens : List Token) (read : Reader Node) : Reader Node := do
  match ← peek with
  | none => failure
  | some t => if tokens.contains t then return emptyScalar none else read

mutual

/-- A node. Block collections begin only where `block` says so, and sequences that are not
indented only where `indentless` does. -/
def node (block indentless : Bool) : Nat → Reader Node
  | 0 => failure
  | steps + 1 => do
    match ← peek with
    | some (.aliasOf name) => do
      skip
      aliasOf name
    | _ => do
      let (name, tag) ← properties
      let place ← name.mapM declare
      let n ← content block indentless (name.isSome || tag.isSome) tag steps
      store place n
      return n

/-- A node without its properties. -/
def content (block indentless given : Bool) (tag : Option String) : Nat → Reader Node
  | 0 => failure
  | steps + 1 => do
    match ← peek with
    | some (.scalar text form) => do
      skip
      return .scalar ⟨text, form, tag⟩
    | some .flowSequence => do
      skip
      return .sequence tag (← flowItems true steps)
    | some .flowMapping => do
      skip
      return .mapping tag (← flowPairs true steps)
    | some t =>
      if indentless && t == .blockEntry then return .sequence tag (← indentlessItems steps)
      else if block && t == .blockSequence then do
        skip
        return .sequence tag (← blockItems steps)
      else if block && t == .blockMapping then do
        skip
        return .mapping tag (← blockPairs steps)
      else if given then return emptyScalar tag
      else failure
    | none => if given then return emptyScalar tag else failure

/-- The items of a block sequence. -/
def blockItems : Nat → Reader (List Node)
  | 0 => failure
  | steps + 1 => do
    if ← next [.blockEntry] then
      skip
      let item ← nodeUnless [.blockEntry, .blockEnd] (node true false steps)
      return item :: (← blockItems steps)
    else
      expect .blockEnd
      return []

/-- The items of a sequence that is not indented. -/
def indentlessItems : Nat → Reader (List Node)
  | 0 => failure
  | steps + 1 => do
    if ← next [.blockEntry] then
      skip
      let item ← nodeUnless [.blockEntry, .key, .value, .blockEnd] (node true false steps)
      return item :: (← indentlessItems steps)
    else return []

/-- The pairs of a block mapping. -/
def blockPairs : Nat → Reader (List (Node × Node))
  | 0 => failure
  | steps + 1 => do
    if ← next [.key] then
      skip
      let key ← nodeUnless [.key, .value, .blockEnd] (node true true steps)
      let value ← if ← next [.value] then do
          skip
          nodeUnless [.key, .value, .blockEnd] (node true true steps)
        else pure (emptyScalar none)
      return (key, value) :: (← blockPairs steps)
    else
      expect .blockEnd
      return []

/-- The items of a flow sequence. A pair without braces is a mapping of its own; where its key is
not written, the token that shows it is taken up. -/
def flowItems (first : Bool) : Nat → Reader (List Node)
  | 0 => failure
  | steps + 1 => do
    if ← next [.flowSequenceEnd] then
      skip
      return []
    else
      if !first then expect .flowEntry
      if ← next [.flowSequenceEnd] then
        skip
        return []
      else
        let item ← if ← next [.key] then do
            skip
            let key ← if ← next [.value, .flowEntry, .flowSequenceEnd] then do
                skip
                pure (emptyScalar none)
              else node false false steps
            let value ← if ← next [.value] then do
                skip
                nodeUnless [.flowEntry, .flowSequenceEnd] (node false false steps)
              else pure (emptyScalar none)
            pure (Node.mapping none [(key, value)])
          else node false false steps
        return item :: (← flowItems false steps)

/-- The pairs of a flow mapping. -/
def flowPairs (first : Bool) : Nat → Reader (List (Node × Node))
  | 0 => failure
  | steps + 1 => do
    if ← next [.flowMappingEnd] then
      skip
      return []
    else
      if !first then expect .flowEntry
      if ← next [.flowMappingEnd] then
        skip
        return []
      else
        let pair ← if ← next [.key] then do
            skip
            let key ← nodeUnless [.value, .flowEntry, .flowMappingEnd] (node false false steps)
            let value ← if ← next [.value] then do
                skip
                nodeUnless [.flowEntry, .flowMappingEnd] (node false false steps)
              else pure (emptyScalar none)
            pure (key, value)
          else do
            pure (← node false false steps, emptyScalar none)
        return pair :: (← flowPairs false steps)

end

/-- The directives at the beginning of a list of tokens. -/
def directivesOf : List Token → List Directive
  | .directive d :: rest => d :: directivesOf rest
  | _ => []

/-- Whether a token shows that a marked document is empty. -/
def endsEmpty : Token → Bool
  | .directive _ => true
  | .documentStart => true
  | .documentEnd => true
  | _ => false

/-- The marker at the beginning of a document and the directives before it; the result tells
whether there is one. -/
def opening : Reader Bool := do
  let r ← get
  let directives := directivesOf r.tokens
  if directives.isEmpty && r.tokens.head? != some .documentStart then return false
  let handles ← liftM (handles? directives)
  set { r with tokens := r.tokens.drop directives.length, handles }
  expect .documentStart
  return true

/-- The root of a document after its marker, if there is one. -/
def root (marked : Bool) (steps : Nat) : Reader Node := do
  match ← peek with
  | none => if marked then return emptyScalar none else failure
  | some t => if marked && endsEmpty t then return emptyScalar none else node true false steps

/-- A document and the marks that it ends with, after which nothing may follow. -/
def document (steps : Nat) : Reader Document := do
  let marked ← opening
  let root ← root marked steps
  let r ← get
  if r.tokens.all fun t => t == .documentEnd then return ⟨root, bearing r⟩ else failure

end Reader

namespace Document

/-- The document of a list of tokens; there is none if there are no tokens. -/
def ofTokens? (tokens : List Token) : Option (Option Document) :=
  if tokens.isEmpty then some none
  else do
    let (d, _) ← (Reader.document (2 * tokens.length + 4)).run { tokens }
    some (some d)

/-- The document of a text; there is none if the text holds nothing but comments. -/
def ofText? (text : String) : Option (Option Document) := do ofTokens? (← scan? text)

end Document

/-! ### Aliases -/

mutual

/-- How large a tree is: a collection counts twice, for its beginning and its end. -/
def Node.size : Node → Nat
  | .scalar _ => 1
  | .aliasOf _ => 1
  | .sequence _ items => sizeOfItems items + 2
  | .mapping _ pairs => sizeOfPairs pairs + 2

/-- The sizes of items. -/
def sizeOfItems : List Node → Nat
  | [] => 0
  | n :: rest => n.size + sizeOfItems rest

/-- The sizes of pairs. -/
def sizeOfPairs : List (Node × Node) → Nat
  | [] => 0
  | (k, v) :: rest => k.size + v.size + sizeOfPairs rest

end

namespace Document

/-- How deep collections may nest. -/
def maxNesting : Nat := 128

/-- A step that may look up so many more aliases. -/
abbrev Lookup := StateT Nat Option

/-- A node, or the node that it stands for. -/
def target (d : Document) : Node → Lookup Node
  | .aliasOf number => do
    match ← get with
    | 0 => failure
    | left + 1 => do
      set left
      match d.anchored.get? number with
      | some n => return n
      | none => failure
  | n => pure n

/-- A node without aliases, whose collections nest at most so deep. -/
def expandWithin (d : Document) : Nat → Node → Lookup Node
  | 0, n => do
    match ← d.target n with
    | .scalar s => return .scalar s
    | _ => failure
  | levels + 1, n => do
    match ← d.target n with
    | .sequence tag items => return .sequence tag (← items.mapM (expandWithin d levels))
    | .mapping tag pairs =>
      return .mapping tag (← pairs.mapM fun (key, value) => do
        return (← expandWithin d levels key, ← expandWithin d levels value))
    | .scalar s => return .scalar s
    | .aliasOf _ => failure

/-- How many aliases may be looked up: a hundred times as many as the document is large. -/
def lookups (d : Document) : Nat := d.root.size * 100

/-- The tree with aliases replaced by what they stand for, if collections do not nest too deep and
not too many aliases are looked up. -/
def expand? (d : Document) : Option Node := do
  let (n, _) ← (d.expandWithin maxNesting d.root).run d.lookups
  some n

end Document

end OpenApiTypes.Yaml
