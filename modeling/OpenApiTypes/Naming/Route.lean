/-
Names of operations taken from their paths.

* `Naming.segments`: the parts of a path;
* `Naming.singular`: a resource name without its plural ending;
* `Naming.ofRoute`: the name of a method on a path;
* `Naming.pathSuffix`: what tells apart operations of one name on different paths.
-/
import OpenApiTypes.HttpMethod
import OpenApiTypes.Naming.Words

namespace OpenApiTypes.Naming

open OpenApiTypes.Text

/-- The parts of a path between slashes, empty ones left out. -/
def segments (path : String) : List String := (splitOn '/' path).filter fun s => !s.isEmpty

/-- Whether a segment stands for a parameter. -/
def isParameter (segment : String) : Bool :=
  startsWith "\x7b" segment && endsWith "\x7d" segment

/-- The name inside the braces of a parameter segment. -/
def parameterName? (segment : String) : Option String := do
  let inner ← stripPrefix? ['\x7b'] segment.toList
  (stripSuffix? ['\x7d'] inner).map String.ofList

/-- A word without its plural ending: `ies` becomes `y`, `ses`, `xes` and `zes` lose two letters,
and a single final `s` is dropped. No word becomes empty. -/
def singular (word : String) : String :=
  let cs := word.toList
  match stripSuffix? "ies".toList cs with
  | some (c :: stem) => String.ofList (c :: stem ++ ['y'])
  | _ =>
    if endsWith "ses" word || endsWith "xes" word || endsWith "zes" word then
      String.ofList (cs.take (cs.length - 2))
    else
      match stripSuffix? ['s'] cs with
      | some (c :: stem) =>
        if (c :: stem).getLast? == some 's' then word else String.ofList (c :: stem)
      | _ => word

/-- What a method does to a resource; reading is `get` for one and `list` for many. -/
def verb (method : HttpMethod) (single : Bool) : String :=
  match method with
  | .get => if single then "get" else "list"
  | .post => "create"
  | .put => "update"
  | other => other.lower

/-- The name of a method on a path: the verb and the resources of the path. Parameters are left
out; when the path ends in one, the last resource is meant in the singular. -/
def ofRoute (method : HttpMethod) (path : String) : String :=
  let parts := segments path
  let single := (parts.getLast?.map isParameter).getD false
  let resources := parts.filter fun s => !isParameter s
  let names := if single then
      resources.dropLast.map pascal ++ (resources.getLast?.map fun r => pascal (singular r)).toList
    else resources.map pascal
  verb method single ++ String.join names

/-- The segments of a path run together, `By` before each parameter. -/
def pathSuffix (path : String) : String :=
  String.join <| (segments path).map fun segment =>
    match parameterName? segment with
    | some name => "By" ++ pascal name
    | none => pascal segment

end OpenApiTypes.Naming
