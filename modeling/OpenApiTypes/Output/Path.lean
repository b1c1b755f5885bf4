/-
Paths of generated files, relative to the output directory.

* `Output.splitExtension`: a path and the extension of its last part;
* `Output.fileName`: the path of a generated file, `types.gen.ts` for `types.ts`;
* `Output.relativeModule`: how one file names another in an import.
-/
import OpenApiTypes.Text.Split

namespace OpenApiTypes.Output

open OpenApiTypes.Text

/-- A path as its directories with their slashes and its last part. -/
def splitLast (path : List Char) : List Char × List Char :=
  let last := (path.reverse.takeWhile (· != '/')).reverse
  (path.take (path.length - last.length), last)

/-- A path and the extension of its last part. An extension is made of ASCII letters and digits
and follows the last dot, which is not the first character of the part. -/
def splitExtension (path : String) : String × Option String :=
  let (directories, last) := splitLast path.toList
  let extension := (last.reverse.takeWhile (· != '.')).reverse
  let stem := last.take (last.length - extension.length - 1)
  if extension.length < last.length ∧ !stem.isEmpty ∧ !extension.isEmpty
      ∧ extension.all Char.isAlphanum then
    (String.ofList (directories ++ stem), some (String.ofList extension))
  else (path, none)

/-- The path of a generated file: `.gen` comes before the extension. Paths that mention `index`
are kept. -/
def fileName (path : String) : String :=
  if occursIn "index".toList path.toList then path
  else match splitExtension path with
    | (stem, some extension) => stem ++ ".gen." ++ extension
    | (stem, none) => stem ++ ".gen"

/-- A path with an extension; one without gets `.ts`. -/
def withExtension (path : String) : String :=
  if (splitExtension path).2.isNone then path ++ ".ts" else path

/-- The parts of a path, empty ones left out. -/
def parts (path : String) : List String := (splitOn '/' path).filter fun s => !s.isEmpty

/-- How many parts two lists have in common at the beginning. -/
def commonLength : List String → List String → Nat
  | a :: as, b :: bs => if a == b then commonLength as bs + 1 else 0
  | _, _ => 0

/-- How the file `source` names the file `target` in an import: up to the directory they share,
then down, without the extension `ts`. -/
def relativeModule (source target : String) : String :=
  let goal := match splitExtension target with
    | (stem, some "ts") => stem
    | _ => target
  let sourceDirectories := (parts source).dropLast
  let goalParts := parts goal
  let common := commonLength sourceDirectories goalParts.dropLast
  let up := sourceDirectories.length - common
  let down := joinWith "/" (goalParts.drop common)
  (if up == 0 then "./" else String.join (List.replicate up "../")) ++ down

end OpenApiTypes.Output
