/-
The program.

* files of the operating system as a place that holds files;
* `main`: runs a command and prints its outcome.
-/
import OpenApiTypes.CommandLine.Run

namespace OpenApiTypes.CommandLine

open OpenApiTypes.Files (FileError FileSystem)

/-- Why the operating system refuses a step. -/
def fileError : IO.Error → FileError
  | .noFileOrDirectory _ _ _ => .missing
  | .alreadyExists _ _ _ => .occupied
  | e => .other (toString e)

/-- A step of the operating system. -/
def onSystem {α : Type} (step : IO α) : ExceptT FileError IO α :=
  ExceptT.mk do
    match ← step.toBaseIO with
    | .ok a => return .ok a
    | .error e => return .error (fileError e)

instance : FileSystem IO where
  holds path := do
    match ← (IO.FS.Handle.mk path .read).toBaseIO with
    | .ok _ => return true
    | .error _ => return false
  read path := onSystem do return (← IO.FS.readBinFile path).toList
  makeDirectories path := onSystem do
    if !path.isEmpty then IO.FS.createDirAll path
  write path bytes := onSystem (IO.FS.writeBinFile path ⟨bytes.toArray⟩)
  remove path := onSystem (IO.FS.removeFile path)

end OpenApiTypes.CommandLine

/-- Runs a command and prints its outcome. -/
def main (arguments : List String) : IO UInt32 := do
  let outcome ← (OpenApiTypes.CommandLine.run arguments : IO OpenApiTypes.CommandLine.Outcome)
  IO.print outcome.stdout
  IO.eprint outcome.stderr
  return outcome.code.toUInt32
