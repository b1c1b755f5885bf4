/-
Where a document comes from.

* `Input`: a file, an address, or a document of the registry;
* `Input.ofText`: the input that a text denotes;
* `Input.remoteUrl?`: the address from which an input would have to be downloaded.
-/
import OpenApiTypes.Text.Alphanumeric
import OpenApiTypes.Text.Split

namespace OpenApiTypes

/-- Where a document comes from. -/
inductive Input where
  | file (path : String)
  | url (url : String)
  /-- A document of the registry. -/
  | registry (organization project : String)
deriving DecidableEq, Repr

namespace Input

open OpenApiTypes.Text

/-- The parts of the name of a document in the registry. -/
inductive Segment where
  | organization
  | project
deriving DecidableEq, Repr

/-- The word for a part. -/
def Segment.name : Segment → String
  | organization => "organization"
  | project => "project"

/-- Why a text denotes no input. -/
inductive Problem where
  /-- The text has not the form of a shorthand. -/
  | invalidShorthand (text : String)
  /-- A part of the shorthand is empty. -/
  | emptySegment (segment : Segment)
deriving DecidableEq, Repr

/-- What is said of a text that denotes no input. -/
def Problem.message : Problem → String
  | invalidShorthand text =>
    "invalid Scalar shorthand format, expected \"scalar:@organization/project\", received: " ++ text
  | emptySegment segment => "the Scalar " ++ segment.name ++ " cannot be empty"

/-- What shorthands for documents of the registry begin with. -/
def registryScheme : String := "scalar:"

/-- Characters of the name of an organization. -/
def isOrganizationChar (c : Char) : Bool := isWordChar c || c == '-'

/-- Characters of the name of a project. -/
def isProjectChar (c : Char) : Bool := isWordChar c || c == '.' || c == '-'

/-- The organization and the project of a shorthand `@organization/project`. -/
def segments? (shorthand : List Char) : Option (String × String) :=
  match shorthand with
  | '@' :: names =>
    let organization := names.takeWhile (· != '/')
    match names.dropWhile (· != '/') with
    | _ :: project =>
      if organization.all isOrganizationChar && project.all isProjectChar then
        some (String.ofList organization, String.ofList project)
      else none
    | [] => none
  | _ => none

/-- The document of the registry that a shorthand names. -/
def ofShorthand (shorthand : List Char) : Except Problem Input :=
  match segments? shorthand with
  | none => .error (.invalidShorthand (registryScheme ++ String.ofList shorthand))
  | some (organization, project) =>
    if organization.isEmpty then .error (.emptySegment .organization)
    else if project.isEmpty then .error (.emptySegment .project)
    else .ok (.registry organization project)

/-- The input that a text denotes. -/
def ofText (text : String) : Except Problem Input :=
  match stripPrefix? registryScheme.toList text.toList with
  | some shorthand => ofShorthand shorthand
  | none =>
    if startsWith "http://" text || startsWith "https://" text then .ok (.url text)
    else .ok (.file text)

/-- The address of a document of the registry. -/
def registryUrl (organization project : String) : String :=
  "https://registry.scalar.com/" ++ organization ++ "/apis/" ++ project ++ "/latest?format=json"

/-- The address from which an input would have to be downloaded. -/
def remoteUrl? : Input → Option String
  | file _ => none
  | url address => some address
  | registry organization project => some (registryUrl organization project)

end Input

end OpenApiTypes
