import PatronGateway.Backend.Client
import PatronGateway.Config.Basic
import PatronGateway.Token.Verifier

/-!
# What a gateway works with

The client of the backend, the check of bearer tokens where they are asked for,
and the limits, all made from a configuration.  A configuration whose addresses
are no usable URLs makes no gateway.
-/

namespace PatronGateway
namespace Gateway

open Http (Charset)
open Token (KeySource VerifierSettings)

/-- How bearer tokens are checked: where keys come from, and what is expected of
the tokens. -/
structure TokenCheck where
  source : KeySource
  settings : VerifierSettings

/-- What a gateway works with. -/
structure Services where
  client : Backend.Client
  tokens : Option TokenCheck
  bodyLimit : Nat

/-- Why a configuration makes no gateway. -/
inductive BuildError where
  | backend (error : Backend.Client.BuildError)
  | keys (error : Token.FetchError)
  deriving DecidableEq, Repr

/-- The wording of an error. -/
def BuildError.message : BuildError → String
  | backend e => e.message
  | keys e => e.message

/-- How the bearer tokens of a configuration are checked, if they are asked
for. -/
def TokenCheck.ofConfig (tables : Charset.Tables) (c : Config) :
    Except BuildError (Option TokenCheck) :=
  if c.auth.enabled then
    match KeySource.build tables c.keycloak with
    | .error e => .error (.keys e)
    | .ok source =>
      .ok (some ⟨source, { VerifierSettings.default with
        requestTimeout := c.keycloak.requestTimeout
        issuerTemplate := c.auth.issuerTemplate }⟩)
  else .ok none

/-- What a gateway of a configuration works with, given the tables of charsets. -/
def Services.ofConfig (tables : Charset.Tables) (c : Config) : Except BuildError Services :=
  match Backend.Client.build c.okapi.url c.okapi.token c.okapi.requestTimeout with
  | .error e => .error (.backend e)
  | .ok client =>
    (TokenCheck.ofConfig tables c).map fun tokens => ⟨client, tokens, c.server.bodyLimit⟩

end Gateway
end PatronGateway
