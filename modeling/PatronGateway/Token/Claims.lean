import PatronGateway.Json.Reader
import PatronGateway.Json.Record
import PatronGateway.Json.Value
import PatronGateway.Json.Writer

/-!
# Claims

What a token says about its bearer.  Some claims have a type; every other one is
kept as a JSON value under its name.  A typed claim must not be given twice; of
another the last one counts.
-/

namespace PatronGateway
namespace Token

open Json (Document Value)

/-- The claims of a token. -/
structure Claims where
  subject : String
  issuer : Option String
  expiry : Int
  issuedAt : Option Int
  preferredUsername : Option String
  userId : Option String
  extra : List (String × Value)

namespace Claims

/-- The names of the claims that have a type. -/
def typedNames : List String := ["sub", "iss", "exp", "iat", "preferred_username", "user_id"]

/-- The members without the typed claims, in the order of their names. -/
def extraOf : Value → List (String × Value)
  | .object members => members.filter fun m => !typedNames.contains m.1
  | _ => []

/-- The claims that a JSON object writes. -/
def ofDocument? (d : Document) : Option Claims := do
  let value ← d.value?
  match ← d.objectFields? typedNames with
  | [sub, iss, exp, iat, username, userId] => do
    return {
      subject := ← Document.required? Document.string? sub
      issuer := ← Document.withDefault? none (Document.optional? Document.string?) iss
      expiry := ← Document.required? Document.integer? exp
      issuedAt := ← Document.withDefault? none (Document.optional? Document.integer?) iat
      preferredUsername :=
        ← Document.withDefault? none (Document.optional? Document.string?) username
      userId := ← Document.withDefault? none (Document.optional? Document.string?) userId
      extra := extraOf value }
  | _ => none

/-- A member that is left out where there is nothing. -/
def member (name : String) (d : Option Document) : List (String × Document) :=
  match d with
  | some d => [(name, d)]
  | none => []

/-- The JSON object that writes claims: the typed ones first. -/
def toDocument (c : Claims) : Document :=
  .record ([("sub", .ofString c.subject)] ++ member "iss" (c.issuer.map .ofString) ++
    [("exp", .number (.ofInt c.expiry))] ++
    member "iat" (c.issuedAt.map fun i => .number (.ofInt i)) ++
    member "preferred_username" (c.preferredUsername.map .ofString) ++
    member "user_id" (c.userId.map .ofString) ++
    c.extra.map fun m => (m.1, m.2.toDocument))

end Claims
end Token
end PatronGateway
