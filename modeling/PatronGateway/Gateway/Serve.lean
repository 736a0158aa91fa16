import PatronGateway.Gateway.Route
import PatronGateway.Gateway.State

/-!
# Serving requests

`State.serve` answers one request.  A request passes, in this order,

* the request id, which its answer bears again;
* the rules for scripts of other origins, which answer every `OPTIONS` request;
* authentication, from which two public endpoints are free;
* the endpoint of its path, which takes some methods and refuses others.

An answer on the path of an endpoint names the methods of the endpoint where the
request had another one.  It tells its length and has no body if only the header
fields were asked for, and so does an answer to a request whose target is no path.
-/

namespace PatronGateway
namespace Gateway

open Access (ApiKey)
open Backend (Forward)
open Http (Network Request Response)
open Patron (RequestError)

/-- A response with a plain text. -/
def plainResponse (status : Nat) (text : String) : Response :=
  .ofText status "text/plain; charset=utf-8" text

/-- A response with a word on how the gateway is. -/
def statusResponse (status : Nat) (word : String) : Response :=
  .ofText status Backend.Answer.jsonType
    (Json.Document.record [("status", .ofString word)]).write

/-- The response to a path with a parameter that is no text. -/
def parameterResponse (p : Parameter) : Response :=
  plainResponse 400 ("Invalid URL: Invalid UTF-8 in " ++ "\x60" ++ p.name ++ "\x60")

/-- The response to a body beyond the limit. -/
def tooLargeResponse : Response :=
  plainResponse 413 "Failed to buffer the request body: length limit exceeded"

/-- The parameters of an account that are passed on, in the order in which they
are. -/
def accountParameters : List String :=
  ["includeLoans", "includeHolds", "includeCharges", "sortBy", "offset", "limit"]

/-- The query that is passed on for an account: of each parameter its last
value. -/
def accountQuery (query : Option String) : List (String × String) :=
  let given := (query.map Url.formDecode).getD []
  accountParameters.filterMap fun name =>
    (given.reverse.lookup name).map fun value => (name, value)

/-- The cancellation that a body asks for. -/
def cancellationOf (body : Bytes) : Except Refusal Hold.Request :=
  match (Json.Document.readBytes? body).bind Hold.Request.ofDocument? with
  | some request => .ok request
  | none => .error (.badRequest "invalid cancellation body: malformed")

namespace State

/-- Passes a request on to the backend, on behalf of a patron. -/
def passOn (s : State) (n : Network) (tenant externalId : String)
    (make : String → Forward) : Except Refusal Response × State × Network :=
  match s.resolve n tenant externalId with
  | (.error e, s, n) => (.error (.patron e), s, n)
  | (.ok id, s, n) =>
    match s.services.client.forward n tenant (make id) with
    | (.error e, n) => (.error (.patron (RequestError.ofBackend e)), s, n)
    | (.ok a, n) => (.ok (relay a), s, n)

/-- Cancels a hold of a patron; the request is checked before anybody asks who the
patron is. -/
def cancelHold (s : State) (n : Network) (tenant externalId holdId : String)
    (request : Hold.Request) : Except Refusal Response × State × Network :=
  match request.validate holdId with
  | .error f => (.error (.patron (.invalid f.message)), s, n)
  | .ok () =>
    match s.resolve n tenant externalId with
    | (.error e, s, n) => (.error (.patron e), s, n)
    | (.ok id, s, n) =>
      match s.desk.cancel n tenant id holdId request with
      | (.error e, n) => (.error (.patron e), s, n)
      | (.ok a, n) => (.ok (relay a), s, n)

/-- Serves a request of a tenant at an endpoint, with the texts of the parameters
of its path. -/
def serveTenant (s : State) (n : Network) (tenant : String) (r : Request) :
    Endpoint → List String → Except Refusal Response × State × Network
  | .account, [patron] =>
    s.passOn n tenant patron fun id =>
      (Forward.get ["patron", "account", id]).withQuery (accountQuery r.target.query)
  | .itemRenewal, [patron, item] =>
    s.passOn n tenant patron fun id =>
      .post ["patron", "account", id, "item", item, "renew"] none
  | .itemHold, [patron, item] =>
    s.passOn n tenant patron fun id =>
      .post ["patron", "account", id, "item", item, "hold"] (some r.body)
  | .instanceHold, [patron, instanceId] =>
    s.passOn n tenant patron fun id =>
      .post ["patron", "account", id, "instance", instanceId, "hold"] (some r.body)
  | .holdCancellation, [patron, hold] =>
    match cancellationOf r.body with
    | .error e => (.error e, s, n)
    | .ok request => s.cancelHold n tenant patron hold request
  | _, _ => (.ok (Response.bare 404), s, n)

/-- Serves a request of a tenant on a route: first the method counts, then the
parameters, then the length of the body. -/
def serveRoute (s : State) (n : Network) (tenant : String) (r : Request) (route : Route) :
    Response × State × Network :=
  if !route.endpoint.takes r.method then (.bare 405, s, n)
  else
    match route.values with
    | .error p => (parameterResponse p, s, n)
    | .ok values =>
      if route.endpoint.readsBody && s.services.bodyLimit < r.body.length then
        (tooLargeResponse, s, n)
      else
        match s.serveTenant n tenant r route.endpoint values with
        | (.error e, s, n) => (e.response, s, n)
        | (.ok response, s, n) => (response, s, n)

/-- Serves a request at an endpoint that everybody may ask. -/
def servePublic (s : State) (method : String) (e : Endpoint) : Response :=
  if !e.takes method then .bare 405
  else if e = .health then statusResponse 200 "ok"
  else if s.isReady then statusResponse 200 "ready"
  else statusResponse 503 "initializing"

/-- Serves a request that must say for whom it is made, wherever its path leads. -/
def servePrivate (s : State) (n : Network) (r : Request) (route : Option Route) :
    Response × State × Network :=
  match s.authenticate n r with
  | (.error e, s, n) => (e.response, s, n)
  | (.ok key, s, n) =>
    match route with
    | some route => s.serveRoute n key.tenant r route
    | none => (.bare 404, s, n)

/-- Serves a request on the route of its path, if it has one. -/
def serveOn (s : State) (n : Network) (r : Request) (route : Option Route) :
    Response × State × Network :=
  match route.filter fun route => route.endpoint.isPublic with
  | some route => (s.servePublic r.method route.endpoint, s, n)
  | none => s.servePrivate n r route

end State

/-- The header field by which requests are told apart. -/
def requestIdHeader : String :=
  "x-request-id"

/-- What an answer may depend on, for caches between the client and the gateway. -/
def varyingHeaders : String :=
  "origin, access-control-request-method, access-control-request-headers"

/-- The answer to a script that asks what it may do: everything. -/
def permission : Response where
  status := 200
  headers := [("access-control-allow-origin", "*"), ("access-control-allow-methods", "*"),
    ("access-control-allow-headers", "*"), ("vary", varyingHeaders)]
  body := []

/-- An answer that scripts of other origins may read. -/
def shared (r : Response) : Response :=
  { r with headers := r.headers ++ [("access-control-allow-origin", "*"),
      ("access-control-expose-headers", "*"), ("vary", varyingHeaders)] }

/-- An answer that tells its length, and has no body if only the header fields were
asked for. -/
def framed (method : String) (r : Response) : Response :=
  { r with
    headers := r.headers ++ [("content-length", toString r.body.length)]
    body := if method == "HEAD" then [] else r.body }

/-- An answer that names the methods of an endpoint where the request had another
one. -/
def withAllowed (e : Endpoint) (method : String) (r : Response) : Response :=
  if e.takes method then r else { r with headers := r.headers ++ [("allow", e.allow)] }

/-- Answers a request.  A request without an id of its own gets a fresh one. -/
def State.serve (s : State) (n : Network) (freshId : String) (r : Request) :
    Response × State × Network :=
  let id := (r.headers.first? requestIdHeader).getD freshId
  let route := Route.ofPath? r.target.path
  let (response, s, n) :=
    if r.method == "OPTIONS" then (permission, s, n)
    else
      let (response, s, n) := s.serveOn n r route
      (shared response, s, n)
  let response := { response with headers := response.headers.set requestIdHeader id }
  match route with
  | some route => (framed r.method (withAllowed route.endpoint r.method response), s, n)
  | none =>
    (if r.target.path.startsWith "/" then response else framed r.method response, s, n)

end Gateway
end PatronGateway
