import PatronGateway.Access.ApiKey
import PatronGateway.Http.Message
import PatronGateway.Url.Form

/-!
# The API key of a request

A request gives its key in the query or in a header field; the first parameter
of the right name wins over the header, even where it is empty.
-/

namespace PatronGateway
namespace Access
namespace ApiKey

/-- The name of the parameter. -/
def parameter : String := "apikey"

/-- The name of the header field. -/
def header : String := "x-api-key"

/-- The text in which a request gives its key. -/
def given? (target : Http.Target) (headers : Http.Headers) : Option String :=
  match (target.query.map Url.formDecode).bind (·.lookup parameter) with
  | some raw => some raw
  | none => headers.text? header

/-- The key of a request. -/
def ofRequest (target : Http.Target) (headers : Http.Headers) : Except Error ApiKey :=
  match given? target headers with
  | none => .error .missing
  | some raw => if Text.isBlank raw then .error .missing else decode raw

end ApiKey
end Access
end PatronGateway
