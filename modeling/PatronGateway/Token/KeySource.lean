import PatronGateway.Cache.Settings
import PatronGateway.Http.Charset
import PatronGateway.Http.Network

/-!
# Where signing keys come from

An identity provider publishes the signing keys of each realm under a fixed
path.  A document is taken only from a successful answer whose size stays within
a limit: a declared length is checked before the body is read, and the length of
the text after it.
-/

namespace PatronGateway
namespace Token

open Json (Document)
open Time (Span)
open Config (Form)
open Http (Charset Network Delivery Outgoing SendError)

/-- Why the keys of a realm could not be fetched. -/
inductive FetchError where
  | notFound (realm : String)
  | status (status : Nat)
  | network (message : String)
  | timeout
  | tooLarge (limit : Nat)
  | invalidUrl (detail : String)
  deriving DecidableEq, Repr

/-- The wording of an error. -/
def FetchError.message : FetchError → String
  | notFound realm => "Realm not found: " ++ realm
  | status n => "HTTP error: status " ++ toString n
  | network m => "Network error: " ++ m
  | timeout => "Request timed out"
  | tooLarge limit => "Response exceeds maximum size of " ++ toString limit ++ " bytes"
  | invalidUrl detail => "Invalid URL: " ++ detail

/-- How keys are fetched: from where, how long it may take, and how large a
document may be. -/
structure SourceSettings where
  url : String
  requestTimeout : Span
  maxResponseSize : Nat
  deriving DecidableEq, Repr

namespace SourceSettings

/-- What holds where nothing is said. -/
def default : SourceSettings where
  url := "http://localhost:8080"
  requestTimeout := Span.ofSeconds 10
  maxResponseSize := 1048576

/-- The settings that are written in some form. -/
def read? {σ : Type} [Config.Form σ] (s : σ) : Option SourceSettings := do
  match ← Form.fields? ["url", "request_timeout", "max_response_size"] s with
  | [url, timeout, size] => do
    return {
      url := ← Form.field? default.url Form.text? url
      requestTimeout := ← Form.field? default.requestTimeout Form.span? timeout
      maxResponseSize := ← Form.field? default.maxResponseSize Form.natural? size }
  | _ => none

/-- The JSON document that writes settings. -/
def toDocument (s : SourceSettings) : Document :=
  .record [("url", .ofString s.url), ("request_timeout", .ofString s.requestTimeout.write),
    ("max_response_size", .ofNat s.maxResponseSize)]

end SourceSettings

/-- A source of keys, with the tables by which it decodes what it fetches. -/
structure KeySource where
  settings : SourceSettings
  base : Url
  tables : Charset.Tables

namespace KeySource

/-- The source for settings. -/
def build (tables : Charset.Tables) (settings : SourceSettings) : Except FetchError KeySource :=
  match Url.read settings.url with
  | .error e => .error (.invalidUrl (settings.url ++ ": " ++ e.message))
  | .ok base =>
    if base.canBeBase then .ok ⟨settings, base, tables⟩ else .error (.invalidUrl settings.url)

/-- The segments of the path of a realm's keys. -/
def certsSegments (realm : String) : List String :=
  ["realms", realm, "protocol", "openid-connect", "certs"]

/-- The URL of a realm's keys. -/
def certsUrl (s : KeySource) (realm : String) : Except FetchError Url :=
  match s.base.extend? (certsSegments realm) with
  | some u => .ok u
  | none => .error (.invalidUrl s.settings.url)

/-- The error of a request that has no answer. -/
def sendError : SendError → FetchError
  | .timeout => .timeout
  | e => .network e.message

/-- Whether a declared length is within a limit. -/
def declaredWithin (limit : Nat) (declared : Option Nat) : Bool :=
  match declared with
  | some n => n ≤ limit
  | none => true

/-- The document of an answer. -/
def document (tables : Charset.Tables) (limit : Nat) (realm : String) (d : Delivery) :
    Except FetchError String :=
  if d.status = 404 then .error (.notFound realm)
  else if d.status < 200 ∨ 300 ≤ d.status then .error (.status d.status)
  else if !declaredWithin limit d.declared then .error (.tooLarge limit)
  else if !d.complete then .error (sendError .cutOff)
  else
    let text := Http.bodyText tables (d.contentType.bind Http.readable?) d.body
    if limit < text.utf8ByteSize then .error (.tooLarge limit) else .ok text

/-- Fetches the document of a realm's keys. -/
def fetch (s : KeySource) (n : Network) (realm : String) : Except FetchError String × Network :=
  match s.certsUrl realm with
  | .error e => (.error e, n)
  | .ok url =>
    match n.send s.settings.requestTimeout ⟨"GET", url, [("accept", "application/json")], []⟩ with
    | (.error e, n) => (.error (sendError e), n)
    | (.ok d, n) => (document s.tables s.settings.maxResponseSize realm d, n)

end KeySource
end Token
end PatronGateway
