import PatronGateway.Http.Header
import PatronGateway.Text.Split

/-!
# Requests and responses

The messages between clients and the gateway.  The target of a request is its
path, still escaped, and its query; a fragment is no part of it.
-/

namespace PatronGateway
namespace Http

/-- What a request asks for. -/
structure Target where
  path : String
  query : Option String
  deriving DecidableEq, Repr

namespace Target

/-- The target of a path with a query; a path that is missing is the root. -/
def ofPathAndQuery (cs : List Char) : Target :=
  let (path, query) := match Text.splitFirst? '?' cs with
    | some (path, query) => (path, some (String.ofList query))
    | none => (cs, none)
  ⟨if path.isEmpty then "/" else String.ofList path, query⟩

/-- The target of a URI.  A server as a whole, `*`, is a path of its own, and an
authority alone has none. -/
def ofUri (uri : String) : Target :=
  let cs := uri.toList.takeWhile (· != '#')
  match cs with
  | '/' :: _ => ofPathAndQuery cs
  | ['*'] => ⟨"*", none⟩
  | _ =>
    match Text.splitFirst? ':' cs with
    | some (_, '/' :: '/' :: rest) =>
      ofPathAndQuery (rest.dropWhile fun c => c != '/' && c != '?')
    | _ => ⟨"", none⟩

end Target

/-- A request of a client. -/
structure Request where
  method : String
  target : Target
  headers : Headers
  body : Bytes
  deriving DecidableEq, Repr

/-- A response to a client. -/
structure Response where
  status : Nat
  headers : Headers
  body : Bytes
  deriving DecidableEq, Repr

/-- A response with a text of a content type. -/
def Response.ofText (status : Nat) (contentType text : String) : Response :=
  ⟨status, [("content-type", contentType)], Text.Utf8.encode text⟩

/-- A response without anything. -/
def Response.bare (status : Nat) : Response := ⟨status, [], []⟩

end Http
end PatronGateway
