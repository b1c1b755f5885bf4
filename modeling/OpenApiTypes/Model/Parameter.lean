/-
Parameters of operations.

* `Model.Place`, `Model.Style`: where a parameter is sent and how it is written there;
* `Model.Pagination`: which field pages through results;
* `Model.Parameter`: a parameter;
* `Model.Parameters`: the parameters of an operation by place and name. A parameter that comes
  later replaces an earlier one of the same place and name where that stands.
-/
import OpenApiTypes.Entries
import OpenApiTypes.Model.Schema

namespace OpenApiTypes.Model

/-- How a parameter is written. -/
inductive Style where
  | form
  | simple
  | label
  | matrix
  | spaceDelimited
  | pipeDelimited
  | deepObject
deriving DecidableEq, Repr

namespace Style

/-- All styles. -/
def all : List Style := [form, simple, label, matrix, spaceDelimited, pipeDelimited, deepObject]

/-- The name of a style. -/
def name : Style → String
  | form => "form"
  | simple => "simple"
  | label => "label"
  | matrix => "matrix"
  | spaceDelimited => "spaceDelimited"
  | pipeDelimited => "pipeDelimited"
  | deepObject => "deepObject"

/-- The style of a name. -/
def ofName? (s : String) : Option Style := all.find? fun style => style.name == s

end Style

/-- Where a parameter is sent. -/
inductive Place where
  | cookie
  | header
  | path
  | query
deriving DecidableEq, Repr

namespace Place

/-- The places in order. -/
def all : List Place := [cookie, header, path, query]

/-- The name of a place. -/
def name : Place → String
  | cookie => "cookie"
  | header => "header"
  | path => "path"
  | query => "query"

/-- The place of a name. -/
def ofName? (s : String) : Option Place := all.find? fun place => place.name == s

/-- The style of parameters that declare none. -/
def defaultStyle : Place → Style
  | query | cookie => .form
  | path | header => .simple

end Place

/-- Which field pages through results. -/
inductive Pagination where
  /-- The parameter itself. -/
  | root
  /-- A property of its schema. -/
  | field (name : String)
deriving DecidableEq, Repr

/-- A parameter. -/
structure Parameter where
  name : String
  place : Place
  style : Style
  explode : Bool
  allowReserved : Bool
  required : Bool
  deprecated : Bool
  description : Option String
  schema : Schema
  pagination : Option Pagination
deriving Repr

/-- The parameters of an operation by place and name. -/
structure Parameters where
  cookie : Entries String Parameter := []
  header : Entries String Parameter := []
  path : Entries String Parameter := []
  query : Entries String Parameter := []
deriving Repr

namespace Parameters

/-- The parameters sent at a place. -/
def at_ (ps : Parameters) : Place → Entries String Parameter
  | .cookie => ps.cookie
  | .header => ps.header
  | .path => ps.path
  | .query => ps.query

/-- Adds a parameter, or replaces the one of the same place and name. -/
def insert (ps : Parameters) (p : Parameter) : Parameters :=
  match p.place with
  | .cookie => { ps with cookie := ps.cookie.put p.name p }
  | .header => { ps with header := ps.header.put p.name p }
  | .path => { ps with path := ps.path.put p.name p }
  | .query => { ps with query := ps.query.put p.name p }

/-- All parameters, place by place. -/
def toList (ps : Parameters) : List Parameter :=
  Place.all.flatMap fun place => (ps.at_ place).values

/-- Whether there are no parameters. -/
def isEmpty (ps : Parameters) : Bool := Place.all.all fun place => (ps.at_ place).isEmpty

/-- The parameters of a list, later ones replacing earlier ones. -/
def ofList (ps : List Parameter) : Parameters := ps.foldl insert {}

end Parameters

end OpenApiTypes.Model
