import PatronGateway.Access.Locate
import PatronGateway.Gateway.Refusal
import PatronGateway.Gateway.Services
import PatronGateway.Hold.Cancellation
import PatronGateway.Patron.Identity

/-!
# A running gateway

A gateway has two caches, one for patrons and one for signing keys, and is ready
once both are there.  This module holds the steps that use a cache and the
network together: verifying a token, resolving a patron, cancelling a hold.
-/

namespace PatronGateway
namespace Gateway

open Access (ApiKey)
open Cache (IdentitySlot KeySlot Moment)
open Http (Network)
open Patron (RequestError)
open Time (Instant)

/-- How the clock of the network tells the date: the date at a moment, and the
seconds since the beginning of 1970. -/
structure Calendar where
  dateAt : Moment → Instant
  secondsAt : Moment → Nat

/-- A running gateway.  Its token check may keep keys apart from those whose
presence makes the gateway ready. -/
structure State where
  services : Services
  calendar : Calendar
  identity : IdentitySlot
  keys : KeySlot
  ownKeys : Option KeySlot := none

namespace State

/-- A gateway at its start, with both caches empty. -/
def start (services : Services) (calendar : Calendar) (caches : Config.Caches) : State where
  services := services
  calendar := calendar
  identity := .fresh IdentitySlot.name caches.identity
  keys := .fresh KeySlot.name caches.publicKeys

/-- Whether both caches are there. -/
def isReady (s : State) : Bool :=
  s.identity.isInitialized && s.keys.isInitialized

/-- The cache of the token check. -/
def tokenKeys (s : State) : KeySlot :=
  s.ownKeys.getD s.keys

/-- A gateway whose token check has left its cache in some state. -/
def withTokenKeys (s : State) (slot : KeySlot) : State :=
  match s.ownKeys with
  | some _ => { s with ownKeys := some slot }
  | none => { s with keys := slot }

/-- Obtains the document of a realm's keys. -/
def obtainKeys (s : State) (check : TokenCheck) (n : Network) (realm : String) :
    Except Token.Error String × State × Network :=
  match Token.consultKeys s.tokenKeys n.now realm with
  | (.document text, slot) => (.ok text, s.withTokenKeys slot, n)
  | (.refused e, slot) => (.error e, s.withTokenKeys slot, n)
  | (.unknown, slot) =>
    let (fetched, n) := check.source.fetch n realm
    let (r, slot) := Token.settleKeys slot n.now realm fetched
    (r, s.withTokenKeys slot, n)

/-- Verifies a token for a realm. -/
def verify (s : State) (check : TokenCheck) (n : Network) (token realm : String) :
    Except Token.Error Token.Claims × State × Network :=
  match Token.readHeader token with
  | .error e => (.error e, s, n)
  | .ok (parts, header) =>
    match s.obtainKeys check n realm with
    | (.error e, s, n) => (.error e, s, n)
    | (.ok document, s, n) =>
      (Token.check (check.settings.expectation realm) (s.calendar.secondsAt n.now) realm parts
        header document, s, n)

/-- The internal id of a patron. -/
def resolve (s : State) (n : Network) (tenant externalId : String) :
    Except RequestError String × State × Network :=
  match Patron.consult s.identity n.now tenant externalId with
  | (.rejected e, slot) => (.error e, { s with identity := slot }, n)
  | (.known id, slot) => (.ok id, { s with identity := slot }, n)
  | (.unknown, slot) =>
    let (found, n) := s.services.client.lookup n tenant externalId
    let (r, slot) := Patron.settle slot n.now tenant externalId found
    (r, { s with identity := slot }, n)

/-- The world of a cancellation: the backend behind the network. -/
def desk (s : State) : Hold.Desk Network where
  dateIn n := s.calendar.dateAt n.now
  fetch n tenant holdId := s.services.client.fetchHold n tenant holdId
  submit n c := s.services.client.submit n c.tenant c.patronId c.holdId c.payload

/-- The token in a header field that must begin with the name of its scheme. -/
def bearerToken (given : Option String) : Except Refusal String :=
  match given with
  | none => .error (.unauthorized "Authentication required")
  | some text =>
    match Text.dropLead? "Bearer ".toList text.toList with
    | some rest =>
      let token := Text.trim (String.ofList rest)
      if token.isEmpty then .error (.unauthorized "Invalid Authorization header format")
      else .ok token
    | none => .error (.unauthorized "Invalid Authorization header format")

/-- Finds out for whom a request is made: its API key comes first, then, where it
is asked for, the token for the realm of the key's tenant. -/
def authenticate (s : State) (n : Network) (r : Http.Request) :
    Except Refusal ApiKey × State × Network :=
  match ApiKey.ofRequest r.target r.headers with
  | .error e => (.error (.apiKey e), s, n)
  | .ok key =>
    match s.services.tokens with
    | none => (.ok key, s, n)
    | some check =>
      match bearerToken (r.headers.text? "authorization") with
      | .error e => (.error e, s, n)
      | .ok token =>
        match s.verify check n token key.tenant with
        | (.error e, s, n) => (.error (.token e), s, n)
        | (.ok _, s, n) => (.ok key, s, n)

end State
end Gateway
end PatronGateway
