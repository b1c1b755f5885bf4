/-
Files held in memory.

* `Files.Node`: a directory, or a file with its bytes;
* `Files.Tree`: nodes by their places. A place is the list of names that leads to it from the
  root. A working directory is always there;
* `Files.Tree.place`: where a path leads. All places it passes have to be directories;
* `Files.Tree.listing`: everything below the working directory.
-/
import OpenApiTypes.Entries
import OpenApiTypes.Files.Basic
import OpenApiTypes.Files.Path

namespace OpenApiTypes.Files

/-- A directory, or a file with its bytes. -/
inductive Node where
  | directory
  | file (bytes : List UInt8)
deriving DecidableEq, Repr

/-- Where a node is: the names that lead to it from the root. -/
abbrev Place := List String

/-- Files and directories held in memory. -/
structure Tree where
  nodes : Entries Place Node := []
deriving DecidableEq, Repr

namespace Tree

/-- The directory in which relative paths begin. -/
def workingDirectory : Place := ["work"]

/-- The node at a place. -/
def node? (t : Tree) (place : Place) : Option Node :=
  if place.isPrefixOf workingDirectory then some .directory else t.nodes.get? place

/-- Puts a node at a place. -/
def put (t : Tree) (place : Place) (node : Node) : Tree := ⟨t.nodes.put place node⟩

/-- Takes the node at a place away. -/
def erase (t : Tree) (place : Place) : Tree := ⟨t.nodes.filter fun p => p.1 != place⟩

/-- The place where a path begins. -/
def start (path : String) : Place := if isAbsolute path then [] else workingDirectory

/-- The place where steps lead from a place. -/
def follow (t : Tree) (place : Place) : List Step → Except FileError Place
  | [] => .ok place
  | step :: rest =>
    match t.node? place with
    | none => .error .missing
    | some (.file _) => .error .notDirectory
    | some .directory => follow t (step.target place) rest

/-- The place where a path leads. -/
def place (t : Tree) (path : String) : Except FileError Place :=
  if path.isEmpty then .error .missing else t.follow (start path) (steps path)

/-! ### Steps -/

/-- Makes the directories on the way. What a last step only confirms is not made. -/
def makeDirectoriesFrom (place : Place) : List Step → ExceptT FileError (StateM Tree) Unit
  | [] => pure ()
  | step :: rest => do
    let next := step.target place
    match (← get).node? next with
    | some .directory => makeDirectoriesFrom next rest
    | some (.file _) => throw (if rest.isEmpty then .occupied else .notDirectory)
    | none =>
      if rest == [.here] then throw .missing
      modify fun t => t.put next .directory
      makeDirectoriesFrom next rest

/-- The steps that make directories: those that move, and a last dot. -/
def directorySteps (path : String) : List Step :=
  moves path ++ if Text.endsWith "/." path then [.here] else []

instance : FileSystem (StateM Tree) where
  holds path := do
    let t ← get
    match t.place path with
    | .ok place => return (t.node? place).isSome
    | .error _ => return false
  read path := do
    let t ← get
    match t.node? (← t.place path) with
    | none => throw .missing
    | some .directory => throw .isDirectory
    | some (.file bytes) => return bytes
  makeDirectories path := makeDirectoriesFrom (start path) (directorySteps path)
  write path bytes := do
    let t ← get
    let place ← t.place path
    match t.node? place with
    | some .directory => throw .isDirectory
    | _ => set (t.put place (.file bytes))
  remove path := do
    let t ← get
    let place ← t.place path
    match t.node? place with
    | none => throw .missing
    | some .directory => throw .isDirectory
    | some (.file _) => set (t.erase place)

/-! ### Contents -/

/-- Puts a node under a path, and directories above it. -/
def plant (t : Tree) (path : String) (node : Node) : Tree :=
  let (_, t) := (makeDirectoriesFrom (start path) (moves (parent path))).run.run t
  t.put ((moves path).foldl Step.target (start path)) node

/-- The path from the working directory to a place below it. -/
def below? (place : Place) : Option String :=
  if workingDirectory.isPrefixOf place && place != workingDirectory then
    some (Text.joinWith "/" (place.drop workingDirectory.length))
  else none

/-- Everything below the working directory, by path. -/
def listing (t : Tree) : List (String × Node) :=
  (t.nodes.filterMap fun (place, node) => (below? place).map fun path => (path, node)).mergeSort
    fun a b => decide (a.1 ≤ b.1)

end Tree

end OpenApiTypes.Files
