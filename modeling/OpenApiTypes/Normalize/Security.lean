/-
Security schemes and the requirements of operations.

* `Normalize.schemeKind`: the kind of a scheme, or the first field it lacks;
* `Normalize.securitySchemes`: the complete schemes of a document by name;
* `Normalize.requiredSchemes`: the schemes named by requirements, each once.
-/
import OpenApiTypes.Diagnostic
import OpenApiTypes.Model.Operation
import OpenApiTypes.Pointer
import OpenApiTypes.Spec.Document

namespace OpenApiTypes.Normalize

open OpenApiTypes.Model

/-- The place of a parameter that holds an API key. -/
def keyPlace : Spec.KeyPlace → Place
  | .query => .query
  | .header => .header
  | .cookie => .cookie

/-- The kind of a scheme, or the first field it lacks. -/
def schemeKind : Spec.SecurityKind → Except String SecurityKind
  | .apiKey none _ => .error "name"
  | .apiKey (some _) none => .error "in"
  | .apiKey (some name) (some place) => .ok (.apiKey name (keyPlace place))
  | .http none _ => .error "scheme"
  | .http (some scheme) bearerFormat =>
    .ok (.http (String.ofList (scheme.toList.map Char.toLower)) bearerFormat)
  | .oauth2 => .ok .oauth2
  | .openIdConnect none => .error "openIdConnectUrl"
  | .openIdConnect (some url) => .ok (.openIdConnect url)
  | .mutualTls => .ok .mutualTls

/-- A scheme, if it is complete; an incomplete one is reported. -/
def securityScheme? (name : String) (s : Spec.SecurityScheme) :
    Reported (Option SecurityScheme) :=
  match schemeKind s.kind with
  | .ok kind => pure (some ⟨name, kind, s.description⟩)
  | .error field =>
    .fallback none ("#/components/securitySchemes/" ++ Pointer.escape name)
      ("skipping scheme without `" ++ field ++ "`")

/-- The complete schemes by name. -/
def securitySchemes : Entries String Spec.SecurityScheme → Reported (Entries String SecurityScheme)
  | [] => pure []
  | (name, s) :: rest => do
    let own ← securityScheme? name s
    return (own.toList.map fun s => (name, s)) ++ (← securitySchemes rest)

/-- The schemes that requirements name, in the order of first mention. Names that stand for no
scheme are dropped. -/
def requiredSchemes (schemes : Entries String SecurityScheme) (rs : List Spec.Requirement) :
    List SecurityScheme :=
  let names := rs.flatMap Entries.keys
  (names.foldl (fun (found : Entries String SecurityScheme) name =>
    match schemes.get? name with
    | some s => if found.has name then found else found.put name s
    | none => found) []).values

end OpenApiTypes.Normalize
