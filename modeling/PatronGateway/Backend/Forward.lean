import PatronGateway.Text.Utf8

/-!
# Requests that are passed on

A request to the backend, given by the segments of its path, its query and an
optional body.  Only a POST has a body.
-/

namespace PatronGateway
namespace Backend

/-- The methods that are passed on. -/
inductive Method where
  | get
  | post
  deriving DecidableEq, Repr

/-- The name of a method. -/
def Method.name : Method → String
  | .get => "GET"
  | .post => "POST"

/-- A request to the backend. -/
structure Forward where
  method : Method
  path : List String
  query : List (String × String) := []
  body : Option Bytes := none
  deriving DecidableEq, Repr

namespace Forward

/-- A request that reads. -/
def get (path : List String) : Forward := { method := .get, path }

/-- A request that acts. -/
def post (path : List String) (body : Option Bytes) : Forward :=
  { method := .post, path, body }

/-- The same request with a query. -/
def withQuery (f : Forward) (query : List (String × String)) : Forward :=
  { f with query }

/-- The path as it is shown to people, without any escaping. -/
def displayPath (f : Forward) : String :=
  "/" ++ "/".intercalate f.path

end Forward
end Backend
end PatronGateway
