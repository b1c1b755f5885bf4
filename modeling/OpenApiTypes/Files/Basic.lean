/-
Files and directories, and what can go wrong with them.

* `Files.FileError`: why a step fails, and what is said of it;
* `Files.FileSystem`: the steps that are taken on files. Each works on a path, relative to the
  working directory unless it begins with a slash.
-/

namespace OpenApiTypes.Files

/-- Why a step on a file fails. -/
inductive FileError where
  /-- There is nothing under the path. -/
  | missing
  /-- There is something under the path already. -/
  | occupied
  /-- A file stands where the path goes on. -/
  | notDirectory
  /-- A directory stands where a file is wanted. -/
  | isDirectory
  | other (text : String)
deriving DecidableEq, Repr

/-- What is said of a step that fails. -/
def FileError.message : FileError → String
  | missing => "No such file or directory (os error 2)"
  | occupied => "File exists (os error 17)"
  | notDirectory => "Not a directory (os error 20)"
  | isDirectory => "Is a directory (os error 21)"
  | other text => text

/-- A place that holds files. -/
class FileSystem (m : Type → Type) where
  /-- Whether there is a file or a directory. -/
  holds : String → m Bool
  /-- The bytes of a file. -/
  read : String → ExceptT FileError m (List UInt8)
  /-- Creates a directory and those above it, as far as they are missing. -/
  makeDirectories : String → ExceptT FileError m Unit
  /-- Writes a file, in place of an earlier one. -/
  write : String → List UInt8 → ExceptT FileError m Unit
  /-- Removes a file. -/
  remove : String → ExceptT FileError m Unit

end OpenApiTypes.Files
