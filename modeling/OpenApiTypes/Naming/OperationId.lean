/-
Ids of operations.

* `NamingStrategy`: whether a declared id or the route names an operation;
* `Naming.operationId`: the id an operation asks for;
* `ClaimedIds.claim`: the id it is given. The first to ask keeps what it asked for; a later one
  gets a suffix from its path, then a counter;
* `ClaimedIds.claimAll`: the ids given to a list of operations.
-/
import OpenApiTypes.Entries
import OpenApiTypes.Naming.Convention
import OpenApiTypes.Naming.Fresh
import OpenApiTypes.Naming.Route
import OpenApiTypes.Text.Blank

namespace OpenApiTypes

/-- What names an operation. -/
inductive NamingStrategy where
  /-- The id it declares, or its route if it declares none. -/
  | declaredId
  /-- Always its route. -/
  | route
deriving DecidableEq, Repr

namespace Naming

/-- The id an operation asks for. Aliases apply to the name before it is put in camel case. -/
def operationId (strategy : NamingStrategy) (aliases : Entries String String)
    (method : HttpMethod) (path : String) (declared : Option String) : String :=
  let raw := match strategy, declared with
    | .declaredId, some id => if Text.allBlank id then ofRoute method path else id
    | _, _ => ofRoute method path
  NamingConvention.camel.apply ((aliases.get? raw).getD raw)

end Naming

/-- The ids given so far. -/
abbrev ClaimedIds := List String

namespace ClaimedIds

/-- The id given to an operation that asks for `base`. -/
def choose (claimed : ClaimedIds) (base path : String) : String :=
  if !claimed.contains base then base
  else
    let suffix := Naming.pathSuffix path
    if !suffix.isEmpty && !claimed.contains (base ++ suffix) then base ++ suffix
    else Naming.firstFree claimed.contains (fun n => base ++ toString n) claimed.length

/-- Gives an id and marks it as claimed. -/
def claim (claimed : ClaimedIds) (base path : String) : String × ClaimedIds :=
  let id := choose claimed base path
  (id, id :: claimed)

/-- The ids given to a list of operations, each asking for a base on a path. -/
def claimAll (claimed : ClaimedIds) : List (String × String) → List String
  | [] => []
  | (base, path) :: rest =>
    let (id, claimed) := claim claimed base path
    id :: claimAll claimed rest

end ClaimedIds

end OpenApiTypes
