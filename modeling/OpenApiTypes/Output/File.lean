/-
Source files under construction.

* `Output.Import`: a symbol taken from another file;
* `Output.File`: statements in order, and the imports they need. A symbol is imported from a file
  once as a type and once as a value;
* `Output.File.source`: the text of a file: a notice, one import statement for each file imported
  from, then the statements;
* `Output.Artifact`: a finished file. One without content is to be removed.
-/
import OpenApiTypes.Entries
import OpenApiTypes.Output.Path
import OpenApiTypes.TypeScript.Printer

namespace OpenApiTypes.Output

open OpenApiTypes.TypeScript (Stmt)

/-- A symbol taken from another file. -/
structure Import where
  name : String
  /-- The name of the symbol in the importing file, if it has another one there. -/
  renamed : Option String := none
  typeOnly : Bool
deriving DecidableEq, Repr

namespace Import

/-- The name of the symbol in the importing file. -/
def localName (i : Import) : String := i.renamed.getD i.name

/-- The symbol in an import statement; `allTypes` tells whether the statement imports nothing but
types. -/
def text (i : Import) (allTypes : Bool) : String :=
  (if i.typeOnly && !allTypes then "type " else "") ++ i.name
    ++ (match i.renamed with
      | some other => " as " ++ other
      | none => "")

end Import

/-- The symbols imported from one file, by name and by whether they are types. -/
abbrev Imports := Entries (String × Bool) Import

/-- The import statement for one file. -/
def Imports.text (module : String) (imports : Imports) : String :=
  let allTypes := imports.values.all Import.typeOnly
  let names := imports.values.map fun i => i.text allTypes
  (if allTypes then "import type" else "import") ++ " \x7b " ++ Text.joinWith ", " names
    ++ " \x7d from " ++ TypeScript.quote module ++ ";"

/-- A source file under construction. -/
structure File where
  id : String
  path : String
  header : Bool
  exportFromIndex : Bool
  imports : Entries String Imports
  nodes : List Stmt

/-- A finished file. One without content is to be removed. -/
structure Artifact where
  path : String
  exportFromIndex : Bool
  content : Option String
deriving DecidableEq, Repr

namespace File

/-- The notice at the top of files. -/
def notice : String := "// This file is auto-generated by apigen. Do not edit it by hand."

/-- An empty file. Its path is made of a name relative to the output directory. -/
def create (id name : String) (header exportFromIndex : Bool) : File :=
  { id, path := fileName (withExtension name), header, exportFromIndex, imports := [], nodes := [] }

/-- The file with one more statement. -/
def add (f : File) (s : Stmt) : File := { f with nodes := f.nodes ++ [s] }

/-- The file with more statements. -/
def addAll (f : File) (ss : List Stmt) : File := { f with nodes := f.nodes ++ ss }

/-- Imports a symbol from another file. A symbol that is already imported in the same way stays
as it is. -/
def import_ (f : File) (module : String) (i : Import) : Import × File :=
  let imports : Imports := (f.imports.get? module).getD []
  match imports.get? (i.name, i.typeOnly) with
  | some known => (known, f)
  | none =>
    (i, { f with imports := f.imports.put module (imports.put (i.name, i.typeOnly) i) })

/-- Whether the file holds no statements. Imports alone do not count. -/
def isEmpty (f : File) : Bool := f.nodes.isEmpty

/-- Takes the last statement away. -/
def removeLast (f : File) : Option Stmt × File :=
  (f.nodes.getLast?, { f with nodes := f.nodes.dropLast })

/-- The text of the file, its sections separated as told. -/
def source (f : File) (separator : String) : String :=
  let imports := f.imports.map fun (module, items) => Imports.text module items
  let sections := (if f.header then [notice] else [])
    ++ (if imports.isEmpty then [] else [Text.joinWith "\n" imports])
    ++ f.nodes.map (Stmt.text 0)
  Text.joinWith separator sections ++ "\n"

/-- The finished file. An empty one is to be removed. -/
def finish (f : File) (separator : String) : Artifact :=
  { path := f.path
    exportFromIndex := f.exportFromIndex
    content := if f.isEmpty then none else some (f.source separator) }

end File

end OpenApiTypes.Output
