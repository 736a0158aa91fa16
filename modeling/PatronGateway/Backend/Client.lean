import PatronGateway.Backend.Forward
import PatronGateway.Backend.Answer
import PatronGateway.Hold.Payload
import PatronGateway.Http.Network
import PatronGateway.Json.Reader
import PatronGateway.Url.Form

/-!
# The client of the backend

The requests that are made of the backend: looking a user up by external id,
fetching a hold, submitting a cancellation and passing a request on.  Every
request carries the tenant that it is made for, the address of the backend and,
where one is configured, the service token.
-/

namespace PatronGateway
namespace Backend

open Json (Document)
open Http (Network Outgoing Headers Delivery SendError)
open Time (Span)

/-- A client of one backend. -/
structure Client where
  base : Url
  token : Option String
  timeout : Span

namespace Client

/-- Why there is no client for an address. -/
inductive BuildError where
  | notUrl (error : Url.Error)
  | noPath (address : String)
  deriving DecidableEq, Repr

/-- The wording of an error. -/
def BuildError.message : BuildError → String
  | notUrl e => e.message
  | noPath address => "okapi.url cannot carry a path: " ++ address

/-- The client for an address. -/
def build (address : String) (token : Option String) (timeout : Span) :
    Except BuildError Client :=
  match Url.read address with
  | .error e => .error (.notUrl e)
  | .ok base =>
    if base.canBeBase then .ok ⟨base, token, timeout⟩ else .error (.noPath address)

/-- The URL of a path of the backend. -/
def endpoint (c : Client) (segments : List String) : Except Error Url :=
  match c.base.extend? segments with
  | some u => .ok u
  | none => .error (.transport ("invalid base url " ++ c.base.text))

/-- The names of the header fields. -/
def tenantHeader : String := "x-okapi-tenant"

/-- The field of the backend's address. -/
def urlHeader : String := "x-okapi-url"

/-- The field of the service token. -/
def tokenHeader : String := "x-okapi-token"

/-- The address of the backend without slashes at its end. -/
def address (c : Client) : String :=
  String.ofList (Text.dropTrailing (· == '/') c.base.toChars)

/-- The header fields of every request. -/
def headers (c : Client) (tenant : String) : Headers :=
  [(tenantHeader, tenant), (urlHeader, c.address), ("accept", "application/json, text/plain")] ++
    match c.token with
    | some t => [(tokenHeader, t)]
    | none => []

/-- A request without a body. -/
def request (c : Client) (method : String) (url : Url) (tenant : String) : Outgoing :=
  ⟨method, url, c.headers tenant, []⟩

/-- The same request with a JSON body. -/
def withJsonBody (o : Outgoing) (body : Bytes) : Outgoing :=
  { o with headers := o.headers ++ [("content-type", Answer.jsonType)], body }

/-- Adds pairs to the query of a URL. -/
def addQuery (u : Url) (pairs : List (String × String)) : Url :=
  let added := Url.formEncode pairs
  { u with
    query := match u.query with
      | some (c :: rest) => some ((c :: rest) ++ '&' :: added)
      | _ => some added }

/-- The error of a request that has no answer. -/
def sendError : SendError → Error
  | .timeout => .timeout
  | e => .transport e.message

/-- Takes an answer that has arrived. -/
def accept (d : Delivery) : Except Error Answer :=
  if d.complete then .ok ⟨d.status, d.contentType.bind Http.readable?, d.body⟩
  else .error (sendError .cutOff)

/-- Sends a request. -/
def send (c : Client) (n : Network) (o : Outgoing) : Except Error Answer × Network :=
  match n.send c.timeout o with
  | (.error e, n) => (.error (sendError e), n)
  | (.ok d, n) => (accept d, n)

/-- Sends a request to an endpoint, if there is one. -/
def sendTo (c : Client) (n : Network) (segments : List String) (make : Url → Outgoing) :
    Except Error Answer × Network :=
  match c.endpoint segments with
  | .error e => (.error e, n)
  | .ok u => c.send n (make u)

/-- The characters that have a meaning inside a quoted search term. -/
def isSearchMark (c : Char) : Bool := c ∈ ['"', '\\', '*', '?', '^']

/-- The characters of a search term, those with a meaning behind a backslash. -/
def escapeTerm (cs : List Char) : List Char :=
  cs.flatMap fun c => if isSearchMark c then ['\\', c] else [c]

/-- A search term in quotes that matches one value. -/
def quoteTerm (value : String) : List Char :=
  '"' :: escapeTerm value.toList ++ ['"']

/-- The query of a user search. -/
def userQuery (externalId : String) : List (String × String) :=
  [("query", "externalSystemId==" ++ String.ofList (quoteTerm externalId)), ("limit", "1")]

/-- The id of a user in a search result. -/
def userId? (d : Document) : Option String := do
  match ← d.fields? ["id"] with
  | [id] => Document.required? Document.string? id
  | _ => none

/-- The part of a search result that counts: the ids of the users, and how many
there are in all. -/
def userIds? (d : Document) : Option (List String × Option Nat) := do
  match ← d.fields? ["users", "totalRecords"] with
  | [users, total] => do
    let ids ← Document.withDefault? [] (Document.listOf? userId?) users
    let count ← Document.withDefault? none (Document.optional? Document.natural?) total
    return (ids, count)
  | _ => none

/-- The user that an answer to a search names. -/
def foundUser (a : Answer) : Except Error String :=
  if !a.isSuccess then .error (.status a)
  else
    match (Document.readBytes? a.body).bind userIds? with
    | none => .error (.decode "user collection: malformed")
    | some (_, some 0) => .error .notFound
    | some ([], _) => .error .notFound
    | some (id :: _, _) => .ok id

/-- Looks a user up by external id. -/
def lookup (c : Client) (n : Network) (tenant externalId : String) :
    Except Error String × Network :=
  let (r, n) := c.sendTo n ["users"] fun u =>
    c.request "GET" (addQuery u (userQuery externalId)) tenant
  (r.bind foundUser, n)

/-- The hold that an answer writes. -/
def foundHold (a : Answer) : Except Error Hold.Record :=
  if a.status = 404 then .error .notFound
  else if a.isSuccess then
    match (Document.readBytes? a.body).bind Hold.Record.ofDocument? with
    | some hold => .ok hold
    | none => .error (.decode "hold record: malformed")
  else .error (.status a)

/-- Fetches a hold. -/
def fetchHold (c : Client) (n : Network) (tenant holdId : String) :
    Except Error Hold.Record × Network :=
  let (r, n) := c.sendTo n ["circulation", "requests", holdId] fun u => c.request "GET" u tenant
  (r.bind foundHold, n)

/-- Submits a cancellation. -/
def submit (c : Client) (n : Network) (tenant patronId holdId : String) (payload : Hold.Payload) :
    Except Error Answer × Network :=
  c.sendTo n ["patron", "account", patronId, "hold", holdId, "cancel"] fun u =>
    withJsonBody (c.request "POST" u tenant) (Text.Utf8.encode payload.toDocument.write)

/-- The request that is passed on; an empty body is no body. -/
def passedOn (c : Client) (tenant : String) (f : Forward) (u : Url) : Outgoing :=
  let u := if f.query.isEmpty then u else addQuery u f.query
  let o := c.request f.method.name u tenant
  match f.body with
  | some (b :: bs) => withJsonBody o (b :: bs)
  | _ => o

/-- Passes a request on. -/
def forward (c : Client) (n : Network) (tenant : String) (f : Forward) :
    Except Error Answer × Network :=
  c.sendTo n f.path (c.passedOn tenant f)

end Client
end Backend
end PatronGateway
