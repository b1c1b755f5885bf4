/-
Commands on files held in memory.

* `CommandLine.runInMemory`: the outcome of a list of arguments, and the files afterwards.
-/
import OpenApiTypes.CommandLine.Run
import OpenApiTypes.Files.Tree

namespace OpenApiTypes.CommandLine

/-- The outcome of a list of arguments, and the files afterwards. -/
def runInMemory (arguments : List String) (tree : Files.Tree) : Outcome × Files.Tree :=
  (run arguments : StateM Files.Tree Outcome).run tree

end OpenApiTypes.CommandLine
