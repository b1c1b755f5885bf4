/-
Where an API is served.

* `Server`: an address and what is said about it;
* `Server.addAll`: a list of servers grows by those it does not hold yet.
-/

namespace OpenApiTypes

/-- Where an API is served. -/
structure Server where
  url : String
  description : Option String
deriving DecidableEq, Repr

/-- Adds a server unless it is there already. -/
def Server.add (known : List Server) (s : Server) : List Server :=
  if s ∈ known then known else known ++ [s]

/-- Adds servers that are not there yet, in order. -/
def Server.addAll (known added : List Server) : List Server := added.foldl Server.add known

end OpenApiTypes
