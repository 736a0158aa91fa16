import PatronGateway.Http.Message
import PatronGateway.Url.Percent

/-!
# Routes

Which path leads to which endpoint of the gateway.  A path is compared segment by
segment as it came, and its parameters are decoded only after that, so that an
escaped slash is part of a parameter.  A parameter in the middle of a path may be
empty; one at its end may not.
-/

namespace PatronGateway
namespace Gateway

/-- What the gateway offers. -/
inductive Endpoint where
  | health
  | readiness
  | account
  | itemRenewal
  | itemHold
  | instanceHold
  | holdCancellation
  deriving DecidableEq, Repr

namespace Endpoint

/-- Whether an endpoint only reads. -/
def isRead : Endpoint → Bool
  | health | readiness | account => true
  | _ => false

/-- Whether an endpoint takes requests of a method; what only reads can be asked
for its header fields alone. -/
def takes (e : Endpoint) (method : String) : Bool :=
  if e.isRead then method == "GET" || method == "HEAD" else method == "POST"

/-- The methods of an endpoint as a header field tells them. -/
def allow (e : Endpoint) : String :=
  if e.isRead then "GET,HEAD" else "POST"

/-- Whether everybody may ask an endpoint. -/
def isPublic : Endpoint → Bool
  | health | readiness => true
  | _ => false

/-- Whether an endpoint needs the body of a request. -/
def readsBody : Endpoint → Bool
  | itemHold | instanceHold | holdCancellation => true
  | _ => false

end Endpoint

/-- A parameter of a path: its name, and its text as it came. -/
structure Parameter where
  name : String
  raw : List Char
  deriving DecidableEq, Repr

/-- The text of a parameter; there is none where its bytes are no text. -/
def Parameter.value? (p : Parameter) : Option String :=
  Text.Utf8.decode? (Url.percentDecodeText p.raw)

/-- An endpoint with the parameters of a path. -/
structure Route where
  endpoint : Endpoint
  parameters : List Parameter
  deriving DecidableEq, Repr

namespace Route

/-- The parameter of the patron. -/
def patron (raw : List Char) : Parameter :=
  ⟨"ext_patron_id", raw⟩

/-- The route of an act on something of a patron. -/
def ofAct? (raw : List Char) (kind act : String) (object : List Char) : Option Route :=
  match kind, act with
  | "item", "renew" => some ⟨.itemRenewal, [patron raw, ⟨"item_id", object⟩]⟩
  | "item", "hold" => some ⟨.itemHold, [patron raw, ⟨"item_id", object⟩]⟩
  | "instance", "hold" => some ⟨.instanceHold, [patron raw, ⟨"instance_id", object⟩]⟩
  | "hold", "cancel" => some ⟨.holdCancellation, [patron raw, ⟨"hold_id", object⟩]⟩
  | _, _ => none

/-- Where a path leads, if anywhere. -/
def ofPath? (path : String) : Option Route :=
  match Text.splitOn '/' path.toList with
  | [[], only] =>
    match String.ofList only with
    | "healthz" => some ⟨.health, []⟩
    | "readyz" => some ⟨.readiness, []⟩
    | _ => none
  | [[], first, second, raw] =>
    if first = "patron".toList ∧ second = "account".toList ∧ raw ≠ [] then
      some ⟨.account, [patron raw]⟩
    else none
  | [[], first, second, raw, kind, object, act] =>
    if first = "patron".toList ∧ second = "account".toList then
      ofAct? raw (String.ofList kind) (String.ofList act) object
    else none
  | _ => none

/-- The texts of the parameters of a route; the first parameter without one is
the error. -/
def values (r : Route) : Except Parameter (List String) :=
  r.parameters.mapM fun p =>
    match p.value? with
    | some v => .ok v
    | none => .error p

end Route
end Gateway
end PatronGateway
