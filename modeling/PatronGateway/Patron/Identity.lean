import PatronGateway.Cache.Slot
import PatronGateway.Backend.Timing
import PatronGateway.Patron.RequestError

/-!
# Who a patron is

A patron is known to clients by an external id and to the backend by an
internal one.  Resolving an external id first consults the cache; where that
knows no internal id, the backend is asked once, and only an id that it gives is
remembered.  An entry that another writer has put meanwhile wins, unless it says
that there is no such patron.

`consult` and `settle` are what happens before and after the backend is asked;
`resolve` puts them together with the course of one call.
-/

namespace PatronGateway
namespace Patron

open Cache (IdentitySlot Moment Lookup)
open Time (Span)

/-- What can be said about a patron before the backend is asked. -/
inductive Consultation where
  | rejected (error : RequestError)
  | known (internalId : String)
  | unknown
  deriving DecidableEq, Repr

/-- Consults the cache about a patron; a blank external id is rejected. -/
def consult (slot : IdentitySlot) (now : Moment) (tenant externalId : String) :
    Consultation × IdentitySlot :=
  if Text.isBlank externalId then
    (.rejected (.invalid "external patron id is required"), slot)
  else
    match slot.get now tenant externalId with
    | (.ok (.hit id), slot) => (.known id, slot)
    | (_, slot) => (.unknown, slot)

/-- The error of a failed lookup. -/
def lookupError (externalId : String) : Backend.Error → RequestError
  | .notFound => .patronNotFound externalId
  | .timeout => .timeout "patron lookup"
  | e => .lookupFailed e.message

/-- Takes in what the backend said about a patron. -/
def settle (slot : IdentitySlot) (now : Moment) (tenant externalId : String) :
    Except Backend.Error String → Except RequestError String × IdentitySlot
  | .error e => (.error (lookupError externalId e), slot)
  | .ok id =>
    match slot.put now tenant externalId (some id) with
    | (.ok entry, slot) => (.ok (entry.value.getD id), slot)
    | (.error _, slot) => (.ok id, slot)

/-- A write into the cache by somebody else. -/
structure Write where
  tenant : String
  externalId : String
  internalId : Option String

/-- The course of a lookup: its call, and the writes of others meanwhile, each with
the nanoseconds since the one before it, or since the beginning. -/
structure LookupCourse where
  call : Backend.Call String
  writes : List (Nat × Write) := []

/-- The cache and the clock. -/
structure IdentityState where
  slot : IdentitySlot
  now : Moment

namespace IdentityState

/-- Puts what is known about a patron into the cache. -/
def put (s : IdentityState) (w : Write) :
    Except Cache.Uninitialized (Cache.Entry String) × IdentityState :=
  let (r, slot) := s.slot.put s.now w.tenant w.externalId w.internalId
  (r, { s with slot })

/-- Looks a patron up in the cache. -/
def get (s : IdentityState) (tenant externalId : String) :
    Except Cache.Uninitialized (Lookup String) × IdentityState :=
  let (r, slot) := s.slot.get s.now tenant externalId
  (r, { s with slot })

/-- Gives the slot an empty cache. -/
def install (s : IdentityState) (settings : Cache.Settings) : IdentityState :=
  { s with slot := s.slot.install settings }

/-- Lets time pass. -/
def advance (s : IdentityState) (nanoseconds : Nat) : IdentityState :=
  { s with now := s.now + nanoseconds }

/-- Lets some nanoseconds pass in which others write; what would be written later
is none of it. -/
def await (s : IdentityState) : Nat → List (Nat × Write) → IdentityState
  | nanoseconds, [] => s.advance nanoseconds
  | nanoseconds, (pause, w) :: rest =>
    if pause ≤ nanoseconds then
      ((s.advance pause).put w).2.await (nanoseconds - pause) rest
    else s.advance nanoseconds

/-- Lets a lookup take its course under a limit. -/
def undergo (s : IdentityState) (limit : Span) (course : LookupCourse) : IdentityState :=
  s.await (course.call.elapsed limit) course.writes

/-- What comes of resolving a patron: the internal id, the lookups that were
made, and the state after them. -/
structure Resolution where
  result : Except RequestError String
  lookups : List (String × String)
  state : IdentityState

/-- Resolves an external id, with the course that a lookup would take. -/
def resolve (s : IdentityState) (limit : Span) (tenant externalId : String)
    (course : LookupCourse) : Resolution :=
  match consult s.slot s.now tenant externalId with
  | (.rejected e, slot) => ⟨.error e, [], { s with slot }⟩
  | (.known id, slot) => ⟨.ok id, [], { s with slot }⟩
  | (.unknown, slot) =>
    let s := { s with slot }.undergo limit course
    let (result, slot) := settle s.slot s.now tenant externalId (course.call.result limit)
    ⟨result, [(tenant, externalId)], { s with slot }⟩

end IdentityState
end Patron
end PatronGateway
