import PatronGateway.Cache.Settings
import PatronGateway.Log.Level
import PatronGateway.Net.Address
import PatronGateway.Text.Blank
import PatronGateway.Token.KeySource

/-!
# Configuration

Everything that can be set about a gateway, in six sections.  Every part has a
default, so that an empty document is a configuration.  `Config.fault?` names the
first part with which a gateway should not be run.
-/

namespace PatronGateway

open Config (Form)
open Json (Document)
open Time (Span)

namespace Config

/-- Where a gateway listens, and how large a request body may be. -/
structure Server where
  host : String
  port : Nat
  bodyLimit : Nat
  deriving DecidableEq, Repr

/-- The backend of a gateway. -/
structure Okapi where
  url : String
  token : Option String
  requestTimeout : Span
  deriving DecidableEq, Repr

/-- Whether a gateway asks for bearer tokens, and who must have issued them. -/
structure Auth where
  enabled : Bool
  issuerTemplate : Option String
  deriving DecidableEq, Repr

/-- The two caches of a gateway. -/
structure Caches where
  identity : Cache.Settings
  publicKeys : Cache.Settings
  deriving DecidableEq, Repr

/-- What a gateway logs; the level is kept as it was written. -/
structure Logging where
  level : String
  deriving DecidableEq, Repr

/-- Where a gateway listens if nothing is said. -/
def Server.default : Server :=
  ⟨"0.0.0.0", 8081, 262144⟩

/-- The backend if nothing is said. -/
def Okapi.default : Okapi :=
  ⟨"http://localhost:9130", none, Span.ofSeconds 10⟩

/-- Nobody is asked for a token if nothing is said. -/
def Auth.default : Auth :=
  ⟨false, none⟩

/-- The caches if nothing is said. -/
def Caches.default : Caches :=
  ⟨Cache.Settings.default, Cache.Settings.default⟩

/-- What is logged if nothing is said. -/
def Logging.default : Logging :=
  ⟨"info"⟩

section Reading

variable {σ : Type} [Form σ]

/-- A number of 16 bits. -/
def port? (s : σ) : Option Nat :=
  (Form.natural? s).filter fun n => n < 65536

/-- Reads the section on the listener. -/
def Server.read? (s : σ) : Option Server := do
  match ← Form.fields? ["host", "port", "body_limit_bytes"] s with
  | [host, port, bodyLimit] => do
    return {
      host := ← Form.field? default.host Form.text? host
      port := ← Form.field? default.port port? port
      bodyLimit := ← Form.field? default.bodyLimit Form.natural? bodyLimit }
  | _ => none

/-- Reads the section on the backend. -/
def Okapi.read? (s : σ) : Option Okapi := do
  match ← Form.fields? ["url", "token", "request_timeout"] s with
  | [url, token, timeout] => do
    return {
      url := ← Form.field? default.url Form.text? url
      token := ← Form.field? none (Form.optional? Form.text?) token
      requestTimeout := ← Form.field? default.requestTimeout Form.span? timeout }
  | _ => none

/-- Reads the section on bearer tokens. -/
def Auth.read? (s : σ) : Option Auth := do
  match ← Form.fields? ["enabled", "issuer_template"] s with
  | [enabled, issuer] => do
    return {
      enabled := ← Form.field? default.enabled Form.truth? enabled
      issuerTemplate := ← Form.field? none (Form.optional? Form.text?) issuer }
  | _ => none

/-- Reads the section on caches. -/
def Caches.read? (s : σ) : Option Caches := do
  match ← Form.fields? ["identity", "public_keys"] s with
  | [identity, publicKeys] => do
    return {
      identity := ← Form.field? default.identity Cache.Settings.read? identity
      publicKeys := ← Form.field? default.publicKeys Cache.Settings.read? publicKeys }
  | _ => none

/-- Reads the section on logging. -/
def Logging.read? (s : σ) : Option Logging := do
  match ← Form.fields? ["level"] s with
  | [level] => do
    return { level := ← Form.field? default.level Form.text? level }
  | _ => none

end Reading

end Config

/-- Everything that can be set about a gateway. -/
structure Config where
  server : Config.Server
  okapi : Config.Okapi
  keycloak : Token.SourceSettings
  auth : Config.Auth
  cache : Config.Caches
  logging : Config.Logging
  deriving DecidableEq, Repr

namespace Config

/-- The configuration if nothing is said. -/
def default : Config where
  server := Server.default
  okapi := Okapi.default
  keycloak := Token.SourceSettings.default
  auth := Auth.default
  cache := Caches.default
  logging := Logging.default

/-- The configuration that is written in some form. -/
def read? {σ : Type} [Form σ] (s : σ) : Option Config := do
  match ← Form.fields? ["server", "okapi", "keycloak", "auth", "cache", "logging"] s with
  | [server, okapi, keycloak, auth, cache, logging] => do
    return {
      server := ← Form.field? default.server Server.read? server
      okapi := ← Form.field? default.okapi Okapi.read? okapi
      keycloak := ← Form.field? default.keycloak Token.SourceSettings.read? keycloak
      auth := ← Form.field? default.auth Auth.read? auth
      cache := ← Form.field? default.cache Caches.read? cache
      logging := ← Form.field? default.logging Logging.read? logging }
  | _ => none

/-- An optional text in a document. -/
def optionalText : Option String → Document
  | some s => .ofString s
  | none => .null

/-- The JSON document that writes a configuration. -/
def toDocument (c : Config) : Document :=
  .record [
    ("server", .record [("host", .ofString c.server.host), ("port", .ofNat c.server.port),
      ("body_limit_bytes", .ofNat c.server.bodyLimit)]),
    ("okapi", .record [("url", .ofString c.okapi.url), ("token", optionalText c.okapi.token),
      ("request_timeout", .ofString c.okapi.requestTimeout.write)]),
    ("keycloak", c.keycloak.toDocument),
    ("auth", .record [("enabled", .bool c.auth.enabled),
      ("issuer_template", optionalText c.auth.issuerTemplate)]),
    ("cache", .record [("identity", c.cache.identity.toDocument),
      ("public_keys", c.cache.publicKeys.toDocument)]),
    ("logging", .record [("level", .ofString c.logging.level)])]

/-- What makes a configuration unusable. -/
inductive Fault where
  | port
  | bodyLimit
  | level
  | okapiUrl
  | okapiTimeout
  | identity (fault : Cache.Settings.Fault)
  | publicKeys (fault : Cache.Settings.Fault)
  | keycloakUrl
  | keycloakTimeout
  deriving DecidableEq, Repr

/-- The names of all levels, each in quotes, as a list in brackets. -/
def levelNames : String :=
  "[" ++ ", ".intercalate (Log.Level.all.map fun l => "\"" ++ l.name ++ "\"") ++ "]"

/-- The wording of a fault. -/
def Fault.message : Fault → String
  | port => "server.port must be > 0"
  | bodyLimit => "server.body_limit_bytes must be > 0"
  | level => "logging.level must be one of " ++ levelNames
  | okapiUrl => "okapi.url must not be empty"
  | okapiTimeout => "okapi.request_timeout must be > 0"
  | identity f => "cache.identity." ++ f.message
  | publicKeys f => "cache.public_keys." ++ f.message
  | keycloakUrl => "auth.enabled=true requires keycloak.url"
  | keycloakTimeout => "keycloak.request_timeout must be > 0"

/-- All faults of a configuration, in the order in which they are looked for.
The identity provider matters only where tokens are asked for. -/
def faults (c : Config) : List Fault :=
  (if c.server.port = 0 then [.port] else []) ++
  (if c.server.bodyLimit = 0 then [.bodyLimit] else []) ++
  (if (Log.Level.ofName? c.logging.level).isNone then [.level] else []) ++
  (if Text.isBlank c.okapi.url then [.okapiUrl] else []) ++
  (if c.okapi.requestTimeout = .zero then [.okapiTimeout] else []) ++
  c.cache.identity.fault?.toList.map .identity ++
  c.cache.publicKeys.fault?.toList.map .publicKeys ++
  (if c.auth.enabled && Text.isBlank c.keycloak.url then [.keycloakUrl] else []) ++
  (if c.auth.enabled && c.keycloak.requestTimeout = .zero then [.keycloakTimeout] else [])

/-- The first fault of a configuration, if it has any. -/
def fault? (c : Config) : Option Fault :=
  c.faults.head?

/-- The address at which to listen; a host that is no address stands for every
address of the machine. -/
def address (c : Config) : Net.Address :=
  (Net.Address.read? c.server.host).getD .unspecified

/-- The address at which to listen, with the port. -/
def addressText (c : Config) : String :=
  c.address.withPort c.server.port

end Config
end PatronGateway
