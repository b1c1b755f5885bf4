/-
Paths of files.

* `Files.Step`: one part of a path;
* `Files.steps`: the parts of a path in order;
* `Files.join`, `Files.parent`: a path below another, and the path above it;
* `Files.extension?`: what follows the last dot of the last name.
-/
import OpenApiTypes.Text.Split

namespace OpenApiTypes.Files

open OpenApiTypes.Text

/-- One part of a path. -/
inductive Step where
  /-- Stays where it is. -/
  | here
  /-- Goes to the directory above. -/
  | up
  | into (name : String)
deriving DecidableEq, Repr

/-- The step that a part of a path denotes. -/
def Step.ofPart : String → Step
  | "" => here
  | "." => here
  | ".." => up
  | name => into name

/-- The text of a step. -/
def Step.text : Step → String
  | here => "."
  | up => ".."
  | into name => name

/-- The place that a step leads to. -/
def Step.target (place : List String) : Step → List String
  | here => place
  | up => place.dropLast
  | into name => place ++ [name]

/-- Whether a path begins at the root. -/
def isAbsolute (path : String) : Bool := startsWith "/" path

/-- The steps of a path. -/
def steps (path : String) : List Step := (splitOn '/' path).map Step.ofPart

/-- The steps of a path that move. -/
def moves (path : String) : List Step := (steps path).filter (· != .here)

/-- A path below a directory. An absolute path is below none, and nothing is put before a path
below the empty one. -/
def join (directory path : String) : String :=
  if isAbsolute path || directory.isEmpty then path
  else if endsWith "/" directory then directory ++ path
  else directory ++ "/" ++ path

/-- The path above a path. -/
def parent (path : String) : String :=
  (if isAbsolute path then "/" else "")
    ++ joinWith "/" ((moves path).dropLast.map Step.text)

/-- What follows the last dot of the last name of a path, unless the name begins there. -/
def extension? (path : String) : Option String :=
  match (moves path).getLast? with
  | some (.into name) =>
    let ending := (name.toList.reverse.takeWhile (· != '.')).reverse
    if ending.length + 1 < name.toList.length then some (String.ofList ending) else none
  | _ => none

end OpenApiTypes.Files
