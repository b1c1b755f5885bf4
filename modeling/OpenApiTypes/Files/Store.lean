/-
Finished files stored in a directory.

* `Files.StoreError`: a file that cannot be written or removed, and what is said of it;
* `Files.store`: writes a finished file, or removes it if it has no content.
-/
import OpenApiTypes.Files.Basic
import OpenApiTypes.Files.Path
import OpenApiTypes.Output.File
import OpenApiTypes.Text.Utf8

namespace OpenApiTypes.Files

/-- A file that cannot be written or removed. -/
inductive StoreError where
  | write (path : String) (cause : FileError)
  | remove (path : String) (cause : FileError)
deriving DecidableEq, Repr

/-- What is said of a file that cannot be written or removed. -/
def StoreError.message : StoreError → String
  | write path cause => "failed to write " ++ path ++ ": " ++ cause.message
  | remove path cause => "failed to remove " ++ path ++ ": " ++ cause.message

section

variable {m : Type → Type} [Monad m] [FileSystem m]

/-- Writes a text to a file, and creates the directories above it. -/
def writeText (path text : String) : ExceptT FileError m Unit := do
  FileSystem.makeDirectories (parent path)
  FileSystem.write path (Utf8.encode text.toList)

/-- Removes a file if it is there. -/
def removeIfPresent (path : String) : ExceptT FileError m Unit := do
  if ← ExceptT.lift (FileSystem.holds path) then FileSystem.remove path

/-- Stores a finished file in a directory. One without content is removed. -/
def store (directory : String) (artifact : Output.Artifact) : ExceptT StoreError m Unit :=
  let path := join directory artifact.path
  match artifact.content with
  | some text => ExceptT.adapt (StoreError.write path) (writeText path text)
  | none => ExceptT.adapt (StoreError.remove path) (removeIfPresent path)

end

end OpenApiTypes.Files
