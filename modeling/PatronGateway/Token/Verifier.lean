import PatronGateway.Cache.Slot
import PatronGateway.Token.Check
import PatronGateway.Token.KeySource

/-!
# Verifying tokens

A token is verified against the keys of the realm that its tenant has.  The
document of a realm's keys comes from the cache or is fetched; that a realm does
not exist is remembered as well, and other failures are not.  A token that has no
readable header never causes a fetch, and a document is remembered before anybody
knows whether it is a key set.

`consultKeys` and `settleKeys` are what happens before and after a fetch.
-/

namespace PatronGateway
namespace Token

open Cache (KeySlot Moment)
open Time (Span)

/-- How tokens are verified. -/
structure VerifierSettings where
  requestTimeout : Span
  issuerTemplate : Option String
  leeway : Nat
  deriving DecidableEq, Repr

namespace VerifierSettings

/-- What holds where nothing is said. -/
def default : VerifierSettings where
  requestTimeout := Span.ofSeconds 10
  issuerTemplate := none
  leeway := 60

/-- What a template holds in place of the realm. -/
def placeholder : List Char := ['\x7b', 'r', 'e', 'a', 'l', 'm', '\x7d']

/-- Puts a text in the place of every placeholder. -/
def fill (text : List Char) : List Char → List Char
  | '\x7b' :: 'r' :: 'e' :: 'a' :: 'l' :: 'm' :: '\x7d' :: rest => text ++ fill text rest
  | c :: rest => c :: fill text rest
  | [] => []

/-- The issuer that is expected of a realm's tokens. -/
def issuerFor (s : VerifierSettings) (realm : String) : Option String :=
  s.issuerTemplate.map fun t => String.ofList (fill realm.toList t.toList)

/-- What is expected of the claims of a realm's tokens. -/
def expectation (s : VerifierSettings) (realm : String) : Expectation :=
  ⟨s.issuerFor realm, s.leeway⟩

end VerifierSettings

/-- What the cache says about the keys of a realm. -/
inductive KeyConsultation where
  | document (text : String)
  | refused (error : Error)
  | unknown
  deriving DecidableEq, Repr

/-- The error for a realm that does not exist. -/
def realmNotFound (realm : String) : Error := .keysUnavailable realm "realm not found"

/-- Consults the cache about the keys of a realm. -/
def consultKeys (slot : KeySlot) (now : Moment) (realm : String) : KeyConsultation × KeySlot :=
  match slot.get now realm with
  | (.ok (.hit text), slot) => (.document text, slot)
  | (.ok .knownAbsent, slot) => (.refused (realmNotFound realm), slot)
  | (_, slot) => (.unknown, slot)

/-- Takes in what came of fetching the keys of a realm. -/
def settleKeys (slot : KeySlot) (now : Moment) (realm : String) :
    Except FetchError String → Except Error String × KeySlot
  | .ok text => (.ok text, (slot.put now realm (some text)).2)
  | .error (.notFound _) => (.error (realmNotFound realm), (slot.put now realm none).2)
  | .error .timeout => (.error (.timeout realm), slot)
  | .error e => (.error (.keysUnavailable realm e.message), slot)

/-- The course of a fetch: how many nanoseconds it takes and what comes of it. -/
structure FetchCourse where
  delay : Nat
  outcome : Except FetchError String

namespace FetchCourse

/-- The outcome of a fetch under a limit. -/
def result (c : FetchCourse) (limit : Span) : Except FetchError String :=
  if c.delay ≤ limit.nanoseconds then c.outcome else .error .timeout

/-- How many nanoseconds pass until a fetch under a limit is over. -/
def elapsed (c : FetchCourse) (limit : Span) : Nat := min c.delay limit.nanoseconds

end FetchCourse

/-- The cache of key sets and the clock. -/
structure VerifierState where
  slot : KeySlot
  now : Moment

/-- What comes of verifying a token: the claims, the realms whose keys were
fetched, and the state after it. -/
structure Verification where
  result : Except Error Claims
  fetches : List String
  state : VerifierState

namespace VerifierState

/-- Puts the document of a realm's keys, or that there is none, into the cache. -/
def put (s : VerifierState) (realm : String) (document : Option String) :
    Except Cache.Uninitialized (Cache.Entry String) × VerifierState :=
  let (r, slot) := s.slot.put s.now realm document
  (r, { s with slot })

/-- Looks the keys of a realm up in the cache. -/
def get (s : VerifierState) (realm : String) :
    Except Cache.Uninitialized (Cache.Lookup String) × VerifierState :=
  let (r, slot) := s.slot.get s.now realm
  (r, { s with slot })

/-- Gives the slot an empty cache. -/
def install (s : VerifierState) (settings : Cache.Settings) : VerifierState :=
  { s with slot := s.slot.install settings }

/-- Lets time pass. -/
def advance (s : VerifierState) (nanoseconds : Nat) : VerifierState :=
  { s with now := s.now + nanoseconds }

/-- Obtains the document of a realm's keys, with the course that a fetch would
take. -/
def obtainKeys (s : VerifierState) (limit : Span) (realm : String) (course : FetchCourse) :
    Except Error String × List String × VerifierState :=
  match consultKeys s.slot s.now realm with
  | (.document text, slot) => (.ok text, [], { s with slot })
  | (.refused e, slot) => (.error e, [], { s with slot })
  | (.unknown, slot) =>
    let now := s.now + course.elapsed limit
    let (r, slot) := settleKeys slot now realm (course.result limit)
    (r, [realm], ⟨slot, now⟩)

/-- Verifies a token for a realm, with the course that a fetch would take.
`secondsAt` gives the date, in seconds, at a moment of the clock. -/
def verify (s : VerifierState) (secondsAt : Moment → Nat) (settings : VerifierSettings)
    (token realm : String) (course : FetchCourse) : Verification :=
  match readHeader token with
  | .error e => ⟨.error e, [], s⟩
  | .ok (p, h) =>
    match s.obtainKeys settings.requestTimeout realm course with
    | (.error e, fetches, s) => ⟨.error e, fetches, s⟩
    | (.ok document, fetches, s) =>
      ⟨check (settings.expectation realm) (secondsAt s.now) realm p h document, fetches, s⟩

end VerifierState
end Token
end PatronGateway
