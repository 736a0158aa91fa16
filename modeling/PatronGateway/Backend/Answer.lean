import PatronGateway.Json.Value
import PatronGateway.Json.Writer
import PatronGateway.Text.Utf8

/-!
# Answers of the backend

An answer is kept as it came: its status, its content type and the bytes of its
body.  What goes wrong before there is an answer, or with an answer that cannot
be used, is an `Error`.
-/

namespace PatronGateway
namespace Backend

/-- An answer of the backend. -/
structure Answer where
  status : Nat
  contentType : Option String
  body : Bytes
  deriving DecidableEq, Repr

namespace Answer

/-- The content type of JSON. -/
def jsonType : String := "application/json"

/-- An answer that carries a JSON value. -/
def json (status : Nat) (value : Json.Value) : Answer :=
  ⟨status, some jsonType, Text.Utf8.encode value.toDocument.write⟩

/-- Whether the status says that the request succeeded. -/
def isSuccess (a : Answer) : Bool :=
  200 ≤ a.status && a.status < 300

end Answer

/-- Why the backend gave no usable answer. -/
inductive Error where
  | notFound
  | status (answer : Answer)
  | timeout
  | transport (message : String)
  | decode (message : String)
  deriving DecidableEq, Repr

/-- The wording of a backend error. -/
def Error.message : Error → String
  | .notFound => "Resource not found"
  | .status a => "Backend responded with status " ++ toString a.status
  | .timeout => "Backend request timed out"
  | .transport m => "Transport error: " ++ m
  | .decode m => "Malformed backend response: " ++ m

end Backend
end PatronGateway
