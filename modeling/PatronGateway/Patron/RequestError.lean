import PatronGateway.Backend.Answer

/-!
# Why a patron's request fails

The errors that arise while a request of a patron is served, with their wording
and the HTTP status that each of them is answered with.
-/

namespace PatronGateway
namespace Patron

open Backend (Answer)

/-- Why a patron's request fails. -/
inductive RequestError where
  | patronNotFound (externalId : String)
  | lookupFailed (message : String)
  | holdNotFound (holdId : String)
  | invalid (message : String)
  | timeout (operation : String)
  | upstream (answer : Answer)
  | backend (message : String)
  deriving DecidableEq, Repr

namespace RequestError

/-- The wording of an error. -/
def message : RequestError → String
  | patronNotFound e => "Patron not found: " ++ e
  | lookupFailed m => "Patron lookup failed: " ++ m
  | holdNotFound h => "Hold not found: " ++ h
  | invalid m => "Validation failed: " ++ m
  | timeout operation => "Upstream request timed out: " ++ operation
  | upstream a => "Upstream responded with status " ++ toString a.status
  | backend m => "Backend error: " ++ m

/-- Whether the client is at fault. -/
def isClientError : RequestError → Bool
  | patronNotFound _ | holdNotFound _ | invalid _ => true
  | _ => false

/-- Whether the backend took too long. -/
def isTimeout : RequestError → Bool
  | timeout _ => true
  | _ => false

/-- A status that HTTP can carry; anything else becomes 502. -/
def carriedStatus (status : Nat) : Nat :=
  if 100 ≤ status ∧ status < 1000 then status else 502

/-- The HTTP status of an error. -/
def status : RequestError → Nat
  | invalid _ => 422
  | patronNotFound _ | holdNotFound _ => 404
  | timeout _ => 504
  | upstream a => carriedStatus a.status
  | lookupFailed _ | backend _ => 502

/-- A backend error for which nothing more special is said. -/
def ofBackend : Backend.Error → RequestError
  | .status a => upstream a
  | .timeout => timeout "backend request"
  | .notFound => backend "resource not found"
  | .transport m => backend m
  | .decode m => backend m

end RequestError
end Patron
end PatronGateway
