import PatronGateway.Cache.Bounded
import PatronGateway.Http.Header
import PatronGateway.Time.Span
import PatronGateway.Url.Segments

/-!
# The network

The world that requests are sent into: where it can be reached, what it will do
with each request that arrives, the requests that have arrived, and the clock.
`Network.send` sends one request and follows the redirects that it is answered with,
at most ten.

* A request that cannot be built, because of its URL or of a header value, never
  arrives.
* Both schemes of the web are sent alike.  Whether a connection comes about, over
  TLS where the scheme asks for it, is up to the network, for each URL.
* A redirect keeps all headers that say something about the caller.  Only 307 and
  308 keep the method and the body of a request that acts.
* The limit on time counts from the first request to the last answer.

A request is recorded with the header fields that its sender gives it.  What is
added on the way is left out: the host, the length of the body, the Basic
authorization that is made of a name and a password in the URL, and the referer of
a redirected request.
-/

namespace PatronGateway
namespace Http

open Cache (Moment)
open Time (Span)

/-- A request that is to be sent, with the header fields that its sender gives it. -/
structure Outgoing where
  method : String
  url : Url
  headers : Headers
  body : Bytes
  deriving DecidableEq, Repr

/-- An answer as the network serves it, after a delay in nanoseconds.  Its body may
fall short of the declared length by some bytes. -/
structure Reply where
  status : Nat
  contentType : Option Bytes
  location : Option String
  body : Bytes
  chunked : Bool
  missing : Nat
  delay : Nat
  deriving DecidableEq, Repr

/-- What the network does with a request. -/
inductive Reaction where
  | reply (r : Reply)
  | hang (nanoseconds : Nat)
  | close
  deriving DecidableEq, Repr, Inhabited

/-- The answer where nothing else is foreseen. -/
def Reply.unforeseen : Reply :=
  ⟨500, some (Text.Utf8.encode "text/plain"), none, Text.Utf8.encode "unscripted", false, 0, 0⟩

/-- The world that requests are sent into: the URLs for which a connection comes
about, what will be done with the next requests, those that have arrived, and the
time. -/
structure Network where
  reaches : Url → Bool
  reactions : List Reaction
  arrived : List Outgoing
  now : Moment

/-- An answer as it arrives: the length that was declared for its body, and
whether the body is complete. -/
structure Delivery where
  status : Nat
  contentType : Option Bytes
  declared : Option Nat
  body : Bytes
  complete : Bool
  deriving DecidableEq, Repr

/-- Why a request has no answer. -/
inductive SendError where
  | badUrl (url : String)
  | badHeader
  | unsent (url : String)
  | redirects (url : String)
  | cutOff
  | timeout
  deriving DecidableEq, Repr

/-- The wording of an error. -/
def SendError.message : SendError → String
  | badUrl u => "builder error for url (" ++ u ++ ")"
  | badHeader => "builder error"
  | unsent u => "error sending request for url (" ++ u ++ ")"
  | redirects u => "error following redirect for url (" ++ u ++ ")"
  | cutOff => "error decoding response body"
  | timeout => "operation timed out"

/-- Whether the status of an answer leaves no room for a body. -/
def hasNoBody (status : Nat) : Bool := status == 204 || status == 304

/-- The answer as it arrives. -/
def Reply.deliver (r : Reply) : Delivery :=
  if hasNoBody r.status then ⟨r.status, r.contentType, some 0, [], true⟩
  else
    { status := r.status
      contentType := r.contentType
      declared := if r.chunked then none else some (r.body.length + r.missing)
      body := r.body
      complete := r.missing == 0 }

/-- The statuses of redirects. -/
def isRedirect (status : Nat) : Bool := status ∈ [301, 302, 303, 307, 308]

/-- Whether a URL names a host. -/
def hasHost (u : Url) : Bool :=
  match u.host with
  | some (.name text) => !text.isEmpty
  | some _ => true
  | none => false

/-- Characters that may stand in the name of a host and yet make no request. -/
def unsendable : List Char := ['"', '\x60', '\x7b', '\x7d']

/-- Whether a request can name a URL: it is not too long, and its host has no
character that a request cannot carry. -/
def isSendable (u : Url) : Bool :=
  u.toChars.length < 65535 &&
    ((u.host.map Url.Host.toChars).getD []).all fun c => !unsendable.contains c

/-- Whether a scheme is one that requests are sent with. -/
def isWebScheme (scheme : List Char) : Bool :=
  scheme == "http".toList || scheme == "https".toList

/-- The request to the place that a redirect points to. -/
def Outgoing.redirected (o : Outgoing) (status : Nat) (target : Url) : Outgoing :=
  if status ∈ [307, 308] then { o with url := target }
  else
    { method := if o.method == "HEAD" then "HEAD" else "GET"
      url := target
      headers := o.headers.remove "content-type"
      body := [] }

/-- Where a redirect points to, if it can be followed. -/
def redirectTarget? (o : Outgoing) (r : Reply) : Option Url :=
  if isRedirect r.status then
    r.location.bind fun l =>
      ((o.url.join l).toOption.map Url.withoutUserinfo).filter isSendable
  else none

namespace Network

/-- Notes the arrival of a request and takes the reaction to it. -/
def arrive (n : Network) (o : Outgoing) : Reaction × Network :=
  match n.reactions with
  | [] => (.reply .unforeseen, { n with arrived := n.arrived ++ [o] })
  | r :: rest => (r, { n with reactions := rest, arrived := n.arrived ++ [o] })

/-- Lets time pass. -/
def advance (n : Network) (nanoseconds : Nat) : Network :=
  { n with now := n.now + nanoseconds }

/-- Sends a request and follows redirects, a given number of them at most, until
a deadline. -/
def follow (deadline : Moment) : Nat → Network → Outgoing → Except SendError Delivery × Network
  | redirectsLeft, n, o =>
    if !n.reaches o.url then (.error (.unsent o.url.text), n)
    else
      match n.arrive o with
      | (.close, n) => (.error (.unsent o.url.text), n)
      | (.hang ns, n) => (.error .timeout, n.advance ns)
      | (.reply r, n) =>
        if deadline < n.now + r.delay then
          (.error .timeout, { n with now := deadline })
        else
          let n := n.advance r.delay
          match redirectTarget? o r with
          | none => (.ok r.deliver, n)
          | some target =>
            match redirectsLeft with
            | 0 => (.error (.redirects o.url.text), n)
            | redirectsLeft + 1 =>
              if isWebScheme target.scheme then
                follow deadline redirectsLeft n (o.redirected r.status target)
              else (.error (.badUrl target.text), n)

/-- How many redirects are followed. -/
def redirectLimit : Nat := 10

/-- Sends a request under a limit on time. -/
def send (n : Network) (limit : Span) (o : Outgoing) : Except SendError Delivery × Network :=
  let url := o.url.withoutUserinfo
  if !hasHost o.url then (.error (.badUrl o.url.text), n)
  else if !o.headers.all fun h => isValue h.2 then (.error .badHeader, n)
  else if !isWebScheme url.scheme || !isSendable url then (.error (.badUrl url.text), n)
  else follow (n.now + limit.nanoseconds) redirectLimit n { o with url }

end Network
end Http
end PatronGateway
