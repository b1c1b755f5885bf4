/-
The methods an operation can have.

* `HttpMethod`: the methods, in the order in which a path lists its operations;
* `HttpMethod.lower`, `HttpMethod.upper`: their names.
-/

namespace OpenApiTypes

/-- A method of a request. -/
inductive HttpMethod where
  | get
  | put
  | post
  | delete
  | options
  | head
  | patch
  | trace
deriving DecidableEq, Repr

namespace HttpMethod

/-- The methods in the order in which a path lists its operations. -/
def all : List HttpMethod := [get, put, post, delete, options, head, patch, trace]

/-- The name in small letters. -/
def lower : HttpMethod → String
  | get => "get"
  | put => "put"
  | post => "post"
  | delete => "delete"
  | options => "options"
  | head => "head"
  | patch => "patch"
  | trace => "trace"

/-- The name in capitals. -/
def upper : HttpMethod → String
  | get => "GET"
  | put => "PUT"
  | post => "POST"
  | delete => "DELETE"
  | options => "OPTIONS"
  | head => "HEAD"
  | patch => "PATCH"
  | trace => "TRACE"

/-- The method of a name in small letters. -/
def ofLower? (s : String) : Option HttpMethod := all.find? fun m => m.lower == s

end HttpMethod

end OpenApiTypes
