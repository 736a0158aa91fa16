import PatronGateway.Gateway.Serve

/-!
# Serving step by step

Whoever runs a gateway against a real backend learns the reaction to a request only
after having sent it.  A request of a client is therefore served again and again,
each time against one more reaction: `State.attempt` serves it against the reactions
known so far and tells which request needs the next one, or what the answer is.

An attempt with more reactions sends the same requests as one with fewer, up to the
point where the latter came to its end, so nothing is sent twice.
-/

namespace PatronGateway
namespace Gateway

open Cache (Moment)
open Http (Network Outgoing Reaction Request Response)

/-- What an attempt to serve a request comes to. -/
inductive Attempt where
  | asks (request : Outgoing)
  | answers (response : Response) (next : State)

/-- A network that reacts in a known way, from a moment on. -/
def knownNetwork (start : Moment) (known : List Reaction) : Network where
  reaches _ := true
  reactions := known
  arrived := []
  now := start

/-- Serves a request that has come at a moment, as far as the known reactions
go. -/
def State.attempt (s : State) (start : Moment) (freshId : String) (r : Request)
    (known : List Reaction) : Attempt :=
  let (response, next, n) := s.serve (knownNetwork start known) freshId r
  match n.arrived.drop known.length with
  | request :: _ => .asks request
  | [] => .answers response next

/-- How many requests serving one may send at most: for the keys, for a patron, for
a hold and for what was asked for, each with the redirects that are followed. -/
def attemptLimit : Nat :=
  4 * (Network.redirectLimit + 1)

/-- The longest time that an answer is waited for, in nanoseconds. -/
def Services.patience (s : Services) : Nat :=
  let backend := s.client.timeout.nanoseconds
  match s.tokens with
  | some check => max backend check.source.settings.requestTimeout.nanoseconds
  | none => backend

end Gateway
end PatronGateway
