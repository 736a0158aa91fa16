import PatronGateway.Proofs.Gateway.Gate
import PatronGateway.Proofs.Token.Acceptance

/-!
# Runs of a gateway

A gateway and the network around it go through requests, each with a script of the
answers that the network has for it, through the passing of time, through connections that
come and go, and through what others do to the caches, in any order.

* `World.services_run` says that a run does not change what the gateway works with.
* `World.backend_calls_are_admitted` says of every request of every run which calls it can
  cause.
-/

namespace PatronGateway
namespace Gateway

open Access (ApiKey)
open Backend (Client)
open Cache (IdentitySlot)
open Http (Charset Network Outgoing Reaction Request)
open Time (Span)

/-- A gateway and the network around it. -/
structure World where
  state : State
  network : Network

/-- What can happen in a world. -/
inductive WorldEvent where
  | request (script : List Reaction) (freshId : String) (r : Request)
  | advance (nanoseconds : Nat)
  | reconnect (reaches : Url → Bool)
  | installIdentity (settings : Cache.Settings)
  | installKeys (settings : Cache.Settings)
  | putIdentity (tenant externalId : String) (internalId : Option String)

/-- A gateway asks for bearer tokens if its configuration says so. -/
theorem Services.isSome_tokens_of_ofConfig {tables : Charset.Tables} {c : Config}
    {services : Services} (h : Services.ofConfig tables c = .ok services) :
    services.tokens.isSome = c.auth.enabled := by
  unfold Services.ofConfig at h
  split at h
  · cases h
  · rename_i client hclient
    unfold TokenCheck.ofConfig at h
    by_cases henabled : c.auth.enabled = true
    · rw [if_pos henabled] at h
      cases hsource : Token.KeySource.build tables c.keycloak with
      | error e =>
          rw [hsource] at h
          cases h
      | ok source =>
          rw [hsource] at h
          cases h
          exact henabled.symm
    · rw [if_neg henabled] at h
      cases h
      exact (Bool.eq_false_iff.mpr henabled).symm

namespace World

/-- The network with a script for what arrives next. -/
def scripted (w : World) (script : List Reaction) : Network :=
  { w.network with reactions := script }

/-- One step. -/
def step (w : World) : WorldEvent → World
  | .request script freshId r =>
      let (_, state, network) := w.state.serve (w.scripted script) freshId r
      ⟨state, network⟩
  | .advance nanoseconds => { w with network := w.network.advance nanoseconds }
  | .reconnect reaches => { w with network := { w.network with reaches } }
  | .installIdentity settings =>
      { w with state := { w.state with identity := w.state.identity.install settings } }
  | .installKeys settings =>
      { w with state := { w.state with keys := w.state.keys.install settings } }
  | .putIdentity tenant externalId internalId =>
      { w with state := { w.state with
          identity := (IdentitySlot.put w.state.identity w.network.now tenant externalId
            internalId).2 } }

/-- Many steps. -/
def run (w : World) (history : List WorldEvent) : World :=
  history.foldl step w

theorem services_step (w : World) (e : WorldEvent) :
    (w.step e).state.services = w.state.services := by
  cases e with
  | request script freshId r => exact w.state.services_serve (w.scripted script) freshId r
  | advance nanoseconds => rfl
  | reconnect reaches => rfl
  | installIdentity settings => rfl
  | installKeys settings => rfl
  | putIdentity tenant externalId internalId => rfl

/-- A gateway works with the same services throughout. -/
theorem services_run (w : World) (history : List WorldEvent) :
    (w.run history).state.services = w.state.services := by
  induction history generalizing w with
  | nil => rfl
  | cons e rest ih => exact (ih (w.step e)).trans (w.services_step e)

/-- Whatever has happened before, whatever a request looks like and whatever the network
answers, the gateway calls the backend only for a request that has been admitted, and
only for the tenant of its API key.  All else that the request makes the gateway send
fetches the keys of that tenant, and authentication fetches no other keys. -/
theorem backend_calls_are_admitted {tables : Charset.Tables} {c : Config} {start : World}
    (h : Services.ofConfig tables c = .ok start.state.services) (history : List WorldEvent)
    (script : List Reaction) (freshId : String) (r : Request) :
    let w := start.run history
    let n := w.scripted script
    (∀ o ∈ (w.state.serve n freshId r).2.2.arrivedSince n,
      (w.state.services.client.Sends o → ∃ key,
        State.Admission c.auth.enabled w.state n r key ∧
        o.headers.values Client.tenantHeader = [key.tenant]) ∧
      (¬ w.state.services.client.Sends o → ∃ key check,
        ApiKey.ofRequest r.target r.headers = .ok key ∧
        w.state.services.tokens = some check ∧
        o ∈ (check.source.fetch n key.tenant).2.arrivedSince n)) ∧
    ((w.state.authenticate n r).2.2 = n ∨ ∃ key check,
      ApiKey.ofRequest r.target r.headers = .ok key ∧
      w.state.services.tokens = some check ∧
      (w.state.authenticate n r).2.2 = (check.source.fetch n key.tenant).2) := by
  intro w n
  refine ⟨?_, (w.state.authenticate_spec n r).2⟩
  intro o ho
  have henabled : w.state.services.tokens.isSome = c.auth.enabled := by
    rw [services_run]
    exact Services.isSome_tokens_of_ofConfig h
  obtain ⟨fetched, called, harrived, hfetched, hcalled⟩ := w.state.arrived_serve n freshId r
  rw [Network.arrivedSince_eq harrived] at ho
  rw [henabled] at hcalled
  rcases List.mem_append.mp ho with hgate | hbehind
  · -- the client names a tenant in whatever it sends, so this is none of its requests
    obtain ⟨hnone, hkeys⟩ := hfetched o hgate
    refine ⟨?_, fun _ => hkeys⟩
    rintro ⟨before, tenant, operation, hsent⟩
    rw [Client.tenant_perform hsent] at hnone
    cases hnone
  · obtain ⟨key, hadmitted, before, operation, hsent⟩ := hcalled o hbehind
    refine ⟨fun _ => ⟨key, hadmitted, Client.tenant_perform hsent⟩, ?_⟩
    exact fun hnot => absurd ⟨before, key.tenant, operation, hsent⟩ hnot

/-- A configuration that asks for bearer tokens. -/
def guardedConfig : Config :=
  { Config.default with
    okapi := ⟨"http://[::1]:9130", none, Span.ofSeconds 10⟩
    keycloak := { Token.SourceSettings.default with url := "http://[::2]:8080" }
    auth := ⟨true, none⟩ }

/-- A gateway of that configuration, before its first request. -/
def guarded (services : Services) : World where
  state := .start services ⟨fun _ => ⟨2026, 1, 1, 0, 0, 0, 0, 0⟩, Token.Sample.date⟩
    guardedConfig.cache
  network := ⟨fun _ => true, [], [], 0⟩

/-- An answer with a JSON text. -/
def jsonReply (text : String) : Reaction :=
  .reply ⟨200, some (Text.Utf8.encode Backend.Answer.jsonType), none, Text.Utf8.encode text,
    false, 0, 0⟩

/-- A request with an API key for the tenant `diku` and a bearer token. -/
def accountRequest : Request where
  method := "GET"
  target := ⟨"/patron/account/1", some "apikey=eyJzIjoieCIsInQiOiJkaWt1IiwidSI6InUifQ"⟩
  headers := [("authorization", "Bearer " ++ Token.Sample.token)]
  body := []

/-- A first request, whose answers leave the keys and the patron in the caches, and a
second of time after it. -/
def warmUp : List WorldEvent :=
  [.request
      [jsonReply Token.Sample.document,
        jsonReply "\x7b\"users\":[\x7b\"id\":\"u\"\x7d]\x7d", jsonReply "\x7b\x7d"]
      "1" accountRequest,
    .advance 1000000000]

/-- The answer to a second request. -/
def secondScript : List Reaction :=
  [jsonReply "\x7b\x7d"]

/-- A request that is admitted over a document from the cache and causes one call. -/
theorem backend_calls_are_admitted_warm : ∃ services,
    Services.ofConfig .blank guardedConfig = .ok services ∧
    let w := (guarded services).run warmUp
    let n := w.scripted secondScript
    ∃ o ∈ (w.state.serve n "2" accountRequest).2.2.arrivedSince n,
      ∃ key, State.Admission true w.state n accountRequest key ∧
        o.headers.values Client.tenantHeader = [key.tenant] := by
  have hrun : ∃ services, Services.ofConfig .blank guardedConfig = .ok services ∧
      (((((guarded services).run warmUp).state.serve
          (((guarded services).run warmUp).scripted secondScript) "2"
          accountRequest).2.2.arrivedSince
          (((guarded services).run warmUp).scripted secondScript)).map
        fun o => o.headers.values Client.tenantHeader) = [["diku"]] := by
    apply Token.ok_of_toOption
    decide +kernel
  obtain ⟨services, hservices, htenants⟩ := hrun
  have hstart : Services.ofConfig .blank guardedConfig = .ok (guarded services).state.services :=
    hservices
  have hadmitted := @backend_calls_are_admitted .blank guardedConfig (guarded services) hstart
    warmUp secondScript "2" accountRequest
  obtain ⟨o, hsent, htenant⟩ := List.map_eq_singleton_iff.mp htenants
  have ho := List.mem_singleton_self o
  rw [← hsent] at ho
  obtain ⟨hbackend, hkeys⟩ := hadmitted.1 o ho
  refine ⟨services, hservices, o, ho, hbackend ?_⟩
  -- what fetches keys names no tenant
  by_contra hnot
  obtain ⟨key, check, -, -, hfetch⟩ := hkeys hnot
  obtain ⟨os, hos, hvalues⟩ := arrived_fetch check.source
    (((guarded services).run warmUp).scripted secondScript) key.tenant
  rw [Network.arrivedSince_eq hos] at hfetch
  rw [hvalues o hfetch] at htenant
  cases htenant

end World
end Gateway
end PatronGateway
