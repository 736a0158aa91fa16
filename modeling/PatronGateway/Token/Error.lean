/-!
# Why a token is not accepted

A token is refused because of what it is, because of the key that it names, or
because the keys of its realm could not be obtained.
-/

namespace PatronGateway
namespace Token

/-- What is wrong with a token. -/
inductive Flaw where
  | notThreeParts
  | base64
  | json
  | keyFormat
  | keyAlgorithm (token key : String)
  | ecdsaKey
  | eddsaKey
  | signature
  | missingClaim (name : String)
  | expired
  | issuer
  | other (detail : String)
  deriving DecidableEq, Repr

/-- The wording of a flaw. -/
def Flaw.message : Flaw → String
  | notThreeParts => "InvalidToken"
  | base64 => "Base64 error: malformed"
  | json => "JSON error: malformed"
  | keyFormat => "InvalidKeyFormat"
  | keyAlgorithm token key =>
    "token algorithm " ++ token ++ " does not match key algorithm " ++ key
  | ecdsaKey => "InvalidEcdsaKey"
  | eddsaKey => "InvalidEddsaKey"
  | signature => "InvalidSignature"
  | missingClaim name => "Missing required claim: " ++ name
  | expired => "ExpiredSignature"
  | issuer => "InvalidIssuer"
  | other detail => detail

/-- Why a token is not accepted. -/
inductive Error where
  | keysUnavailable (realm message : String)
  | unknownKey (kid : Option String)
  | invalid (flaw : Flaw)
  | timeout (realm : String)
  deriving DecidableEq, Repr

namespace Error

/-- The wording of an error. -/
def message : Error → String
  | keysUnavailable realm m => "Failed to obtain signing keys for realm " ++ realm ++ ": " ++ m
  | unknownKey kid => "Unknown signing key: " ++ kid.getD "<missing kid>"
  | invalid f => "Invalid token: " ++ f.message
  | timeout realm => "Upstream timed out fetching signing keys for realm " ++ realm

/-- Whether the bearer of the token is to be refused. -/
def isAccessDenied : Error → Bool
  | unknownKey _ | invalid _ => true
  | _ => false

/-- Whether the identity provider could not be used. -/
def isUpstream : Error → Bool
  | keysUnavailable .. | timeout _ => true
  | _ => false

/-- The HTTP status of an error. -/
def status : Error → Nat
  | timeout _ => 504
  | unknownKey _ | invalid _ => 401
  | keysUnavailable .. => 502

end Error
end Token
end PatronGateway
