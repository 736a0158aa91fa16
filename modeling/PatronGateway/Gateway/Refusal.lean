import PatronGateway.Access.Locate
import PatronGateway.Patron.RequestError
import PatronGateway.Token.Error

/-!
# What the gateway answers when it refuses

Every reason for which a request is not served, its wording, and the response
that tells the client.  The response is a JSON object of the status and the
wording, except that an answer of the backend is passed on as it came.
-/

namespace PatronGateway
namespace Gateway

open Http (Response)
open Json (Document)
open Patron (RequestError)

/-- Why a request is not served. -/
inductive Refusal where
  | patron (error : RequestError)
  | token (error : Token.Error)
  | apiKey (error : Access.ApiKey.Error)
  | unauthorized (message : String)
  | badRequest (message : String)
  deriving DecidableEq, Repr

namespace Refusal

/-- The wording of a refusal. -/
def message : Refusal → String
  | patron e => e.message
  | token e => e.message
  | apiKey e => e.message
  | unauthorized m => m
  | badRequest m => "Bad request: " ++ m

/-- The HTTP status of a refusal. -/
def status : Refusal → Nat
  | patron e => e.status
  | token e => e.status
  | apiKey _ | unauthorized _ => 401
  | badRequest _ => 400

/-- Whether the client is asked for a token. -/
def isChallenge : Refusal → Bool
  | token e => e.status == 401
  | unauthorized _ => true
  | _ => false

/-- The object that tells the client. -/
def document (r : Refusal) : Document :=
  .record [("code", .ofNat r.status), ("errorMessage", .ofString r.message)]

end Refusal

/-- Passes an answer of the backend on. -/
def relay (a : Backend.Answer) : Response where
  status := RequestError.carriedStatus a.status
  headers := match a.contentType.filter Http.isValue with
    | some t => [("content-type", t)]
    | none => []
  body := a.body

/-- The response to a request that is not served. -/
def Refusal.response : Refusal → Response
  | .patron (.upstream a) => relay a
  | r =>
    let response := Response.ofText r.status Backend.Answer.jsonType r.document.write
    if r.isChallenge then
      { response with headers := ("www-authenticate", "Bearer") :: response.headers }
    else response

end Gateway
end PatronGateway
