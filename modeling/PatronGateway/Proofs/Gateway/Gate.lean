import PatronGateway.Gateway.Serve
import PatronGateway.Proofs.Backend.Operation
import PatronGateway.Proofs.Text.Split

/-!
# What a request has to pass before the backend is called

Every request is authenticated before anything is asked of the backend, and what is then
asked is asked for the tenant of its API key.

* `State.authenticate_ok` says what an authenticated request has shown: an `Admission`.
* `State.ActsFor` says that the gateway has done nothing but call the backend for one
  tenant; every step behind the gate does only that.
* `State.serve_cases` says what serving a request can come to.
-/

namespace PatronGateway
namespace Gateway

open Access (ApiKey)
open Backend (Client Forward)
open Http (Headers Network Outgoing Request Response)
open Token (KeySource)

/-- Nothing that arrives when keys are fetched names a tenant. -/
theorem arrived_fetch (source : KeySource) (n : Network) (realm : String) :
    ∃ os, (source.fetch n realm).2.arrived = n.arrived ++ os ∧
      ∀ o ∈ os, o.headers.values Client.tenantHeader = [] := by
  unfold KeySource.fetch
  cases source.certsUrl realm with
  | error e => exact ⟨[], by simp, by simp⟩
  | ok url =>
      obtain ⟨os, hos, -, htrail⟩ := n.send_trail source.settings.requestTimeout
        ⟨"GET", url, [("accept", "application/json")], []⟩
      have hvalues : ∀ o ∈ os, o.headers.values Client.tenantHeader = [] := by
        intro o ho
        rw [htrail.values_eq (by decide) ho]
        rfl
      dsimp only
      generalize n.send source.settings.requestTimeout
        ⟨"GET", url, [("accept", "application/json")], []⟩ = run at hos ⊢
      obtain ⟨result, n'⟩ := run
      cases result with
      | error e => exact ⟨os, hos, hvalues⟩
      | ok d => exact ⟨os, hos, hvalues⟩

namespace State

/-! ## The gate -/

/-- What a request has shown to a gateway that lets it in: an API key, from its query or
else from its header fields, and, where tokens are asked for, a bearer token that is
accepted for the realm of the key's tenant. -/
structure Admission (asksToken : Bool) (s : State) (n : Network) (r : Request) (key : ApiKey) :
    Prop where
  key_eq : ApiKey.ofRequest r.target r.headers = .ok key
  key_given : ∃ raw, ApiKey.decode raw = .ok key ∧
    ((r.target.query.map Url.formDecode).bind (·.lookup "apikey") = some raw ∨
      (r.target.query.map Url.formDecode).bind (·.lookup "apikey") = none ∧
        r.headers.text? "x-api-key" = some raw)
  token_accepted : asksToken = true → ∃ check text token claims,
    s.services.tokens = some check ∧ r.headers.text? "authorization" = some text ∧
    (∃ rest, text.toList = "Bearer ".toList ++ rest ∧ token = Text.trim (String.ofList rest)) ∧
    (s.verify check n token key.tenant).1 = .ok claims

theorem key_given_of_ofRequest {r : Request} {key : ApiKey}
    (h : ApiKey.ofRequest r.target r.headers = .ok key) :
    ∃ raw, ApiKey.decode raw = .ok key ∧
      ((r.target.query.map Url.formDecode).bind (·.lookup "apikey") = some raw ∨
        (r.target.query.map Url.formDecode).bind (·.lookup "apikey") = none ∧
          r.headers.text? "x-api-key" = some raw) := by
  unfold ApiKey.ofRequest at h
  split at h
  · cases h
  · rename_i raw hgiven
    split at h
    · cases h
    · refine ⟨raw, h, ?_⟩
      unfold ApiKey.given? at hgiven
      split at hgiven
      · rename_i first hfirst
        exact Or.inl (hfirst.trans hgiven)
      · rename_i hnone
        exact Or.inr ⟨hnone, hgiven⟩

theorem bearerToken_eq_ok {given : Option String} {token : String}
    (h : bearerToken given = .ok token) :
    ∃ text, given = some text ∧
      ∃ rest, text.toList = "Bearer ".toList ++ rest ∧ token = Text.trim (String.ofList rest) := by
  unfold bearerToken at h
  split at h
  · cases h
  · rename_i text
    split at h
    · rename_i rest hdrop
      dsimp only at h
      split at h
      · cases h
      · exact ⟨text, rfl, rest, Text.dropLead?_eq_some_iff.mp hdrop, (Except.ok.inj h).symm⟩
    · cases h

@[simp] theorem services_withTokenKeys (s : State) (slot : Cache.KeySlot) :
    (s.withTokenKeys slot).services = s.services := by
  unfold withTokenKeys
  split <;> rfl

/-- Obtaining keys does nothing on the network but fetch those of the realm, if that. -/
theorem obtainKeys_spec (s : State) (check : TokenCheck) (n : Network) (realm : String) :
    (s.obtainKeys check n realm).2.1.services = s.services ∧
    ((s.obtainKeys check n realm).2.2 = n ∨
      (s.obtainKeys check n realm).2.2 = (check.source.fetch n realm).2) := by
  unfold obtainKeys
  obtain ⟨consultation, slot⟩ := Token.consultKeys s.tokenKeys n.now realm
  cases consultation with
  | document text => exact ⟨services_withTokenKeys s slot, Or.inl rfl⟩
  | refused e => exact ⟨services_withTokenKeys s slot, Or.inl rfl⟩
  | unknown => exact ⟨services_withTokenKeys s _, Or.inr rfl⟩

theorem verify_spec (s : State) (check : TokenCheck) (n : Network) (token realm : String) :
    (s.verify check n token realm).2.1.services = s.services ∧
    ((s.verify check n token realm).2.2 = n ∨
      (s.verify check n token realm).2.2 = (check.source.fetch n realm).2) := by
  unfold verify
  cases Token.readHeader token with
  | error e => exact ⟨rfl, Or.inl rfl⟩
  | ok parts =>
      have hobtain := s.obtainKeys_spec check n realm
      dsimp only
      generalize s.obtainKeys check n realm = run at hobtain ⊢
      obtain ⟨result, s', n'⟩ := run
      cases result with
      | error e => exact hobtain
      | ok document => exact hobtain

/-- Authentication does nothing on the network but fetch the keys of the tenant that the
API key names. -/
theorem authenticate_spec (s : State) (n : Network) (r : Request) :
    (s.authenticate n r).2.1.services = s.services ∧
    ((s.authenticate n r).2.2 = n ∨
      ∃ key check, ApiKey.ofRequest r.target r.headers = .ok key ∧
        s.services.tokens = some check ∧
        (s.authenticate n r).2.2 = (check.source.fetch n key.tenant).2) := by
  unfold authenticate
  cases hkey : ApiKey.ofRequest r.target r.headers with
  | error e => exact ⟨rfl, Or.inl rfl⟩
  | ok key =>
      dsimp only
      cases htokens : s.services.tokens with
      | none => exact ⟨rfl, Or.inl rfl⟩
      | some check =>
          dsimp only
          cases bearerToken (r.headers.text? "authorization") with
          | error e => exact ⟨rfl, Or.inl rfl⟩
          | ok token =>
              obtain ⟨hservices, hnetwork⟩ := s.verify_spec check n token key.tenant
              have hsent : (s.verify check n token key.tenant).2.2 = n ∨
                  ∃ key' check', (Except.ok key : Except Access.ApiKey.Error ApiKey) = .ok key' ∧
                    some check = some check' ∧
                    (s.verify check n token key.tenant).2.2 =
                      (check'.source.fetch n key'.tenant).2 := by
                rcases hnetwork with hsame | hfetch
                · exact Or.inl hsame
                · exact Or.inr ⟨key, check, rfl, rfl, hfetch⟩
              dsimp only
              generalize s.verify check n token key.tenant = run at hservices hsent ⊢
              obtain ⟨result, s', n'⟩ := run
              cases result with
              | error e => exact ⟨hservices, hsent⟩
              | ok claims => exact ⟨hservices, hsent⟩

/-- Nobody is let in without an admission. -/
theorem authenticate_ok {s : State} {n : Network} {r : Request} {key : ApiKey}
    (h : (s.authenticate n r).1 = .ok key) : Admission s.services.tokens.isSome s n r key := by
  unfold authenticate at h
  cases hkey : ApiKey.ofRequest r.target r.headers with
  | error e =>
      rw [hkey] at h
      cases h
  | ok given =>
      rw [hkey] at h
      dsimp only at h
      cases htokens : s.services.tokens with
      | none =>
          rw [htokens] at h
          obtain rfl : given = key := Except.ok.inj h
          exact ⟨hkey, key_given_of_ofRequest hkey, fun hasks => by cases hasks⟩
      | some check =>
          rw [htokens] at h
          dsimp only at h
          cases hbearer : bearerToken (r.headers.text? "authorization") with
          | error e =>
              rw [hbearer] at h
              cases h
          | ok token =>
              rw [hbearer] at h
              dsimp only at h
              cases hverify : s.verify check n token given.tenant with
              | mk result after =>
                  rw [hverify] at h
                  cases result with
                  | error e => cases h
                  | ok claims =>
                      obtain rfl : given = key := Except.ok.inj h
                      obtain ⟨text, htext, hrest⟩ := bearerToken_eq_ok hbearer
                      exact ⟨hkey, key_given_of_ofRequest hkey, fun _ =>
                        ⟨check, text, token, claims, htokens, htext, hrest, by rw [hverify]⟩⟩

/-! ## Behind the gate -/

/-- From one state of the gateway and the network to another, nothing has happened on the
network but calls of the backend for a tenant. -/
structure ActsFor (tenant : String) (s : State) (n : Network) (s' : State) (n' : Network) :
    Prop where
  services_eq : s'.services = s.services
  called : s.services.client.Called tenant n n'

namespace ActsFor

variable {tenant : String} {s s' s'' : State} {n n' n'' : Network}

theorem refl (tenant : String) (s : State) (n : Network) : ActsFor tenant s n s n :=
  ⟨rfl, .refl _ _ _⟩

theorem trans (h : ActsFor tenant s n s' n') (h' : ActsFor tenant s' n' s'' n'') :
    ActsFor tenant s n s'' n'' where
  services_eq := h'.services_eq.trans h.services_eq
  called := by
    have hcalled := h'.called
    rw [h.services_eq] at hcalled
    exact h.called.trans hcalled

/-- One more operation may follow. -/
theorem perform (h : ActsFor tenant s n s' n') (operation : Client.Operation) :
    ActsFor tenant s n s' (s'.services.client.perform n' tenant operation) :=
  h.trans ⟨rfl, .perform _ _ _ _⟩

end ActsFor

theorem resolve_actsFor (s : State) (n : Network) (tenant externalId : String) :
    ActsFor tenant s n (s.resolve n tenant externalId).2.1
      (s.resolve n tenant externalId).2.2 := by
  unfold resolve
  obtain ⟨consultation, slot⟩ := Patron.consult s.identity n.now tenant externalId
  cases consultation with
  | rejected e => exact ⟨rfl, .refl _ _ _⟩
  | known id => exact ⟨rfl, .refl _ _ _⟩
  | unknown => exact ⟨rfl, .perform _ n tenant (.lookup externalId)⟩

theorem passOn_actsFor (s : State) (n : Network) (tenant externalId : String)
    (make : String → Forward) :
    ActsFor tenant s n (s.passOn n tenant externalId make).2.1
      (s.passOn n tenant externalId make).2.2 := by
  have hresolve := s.resolve_actsFor n tenant externalId
  unfold passOn
  generalize s.resolve n tenant externalId = run at hresolve ⊢
  obtain ⟨resolved, s', n'⟩ := run
  cases resolved with
  | error e => exact hresolve
  | ok id =>
      have hforward := hresolve.perform (.forward (make id))
      change ActsFor tenant s n s' (s'.services.client.forward n' tenant (make id)).2 at hforward
      dsimp only
      generalize s'.services.client.forward n' tenant (make id) = run at hforward ⊢
      obtain ⟨result, n''⟩ := run
      cases result with
      | error e => exact hforward
      | ok answer => exact hforward

/-- A cancellation fetches the hold and submits what is to be cancelled. -/
theorem cancel_actsFor (s : State) (n : Network) (tenant patronId holdId : String)
    (request : Hold.Request) :
    ActsFor tenant s n s (s.desk.cancel n tenant patronId holdId request).2 := by
  unfold Hold.Desk.cancel
  cases Hold.check patronId holdId request with
  | error e => exact .refl tenant s n
  | ok checked =>
      have hfetch := (ActsFor.refl tenant s n).perform (.fetchHold holdId)
      change ActsFor tenant s n s (s.desk.fetch n tenant holdId).2 at hfetch
      dsimp only
      generalize s.desk.fetch n tenant holdId = run at hfetch ⊢
      obtain ⟨fetched, n'⟩ := run
      cases fetched with
      | error e => exact hfetch
      | ok hold =>
          -- the date is read on the network after the fetch
          exact hfetch.perform
            (.submit patronId holdId (Hold.Payload.merge hold request (s.desk.dateIn n')))

theorem cancelHold_actsFor (s : State) (n : Network) (tenant externalId holdId : String)
    (request : Hold.Request) :
    ActsFor tenant s n (s.cancelHold n tenant externalId holdId request).2.1
      (s.cancelHold n tenant externalId holdId request).2.2 := by
  have hresolve := s.resolve_actsFor n tenant externalId
  unfold cancelHold
  cases request.validate holdId with
  | error f => exact .refl tenant s n
  | ok valid =>
      dsimp only
      generalize s.resolve n tenant externalId = run at hresolve ⊢
      obtain ⟨resolved, s', n'⟩ := run
      cases resolved with
      | error e => exact hresolve
      | ok id =>
          have hcancel := hresolve.trans (s'.cancel_actsFor n' tenant id holdId request)
          dsimp only
          generalize s'.desk.cancel n' tenant id holdId request = run at hcancel ⊢
          obtain ⟨result, n''⟩ := run
          cases result with
          | error e => exact hcancel
          | ok answer => exact hcancel

/-- Whatever endpoint is asked, the backend is called for the tenant of the request. -/
theorem serveTenant_actsFor (s : State) (n : Network) (tenant : String) (r : Request)
    (e : Endpoint) (values : List String) :
    ActsFor tenant s n (s.serveTenant n tenant r e values).2.1
      (s.serveTenant n tenant r e values).2.2 := by
  unfold serveTenant
  split
  · exact passOn_actsFor _ _ _ _ _
  · exact passOn_actsFor _ _ _ _ _
  · exact passOn_actsFor _ _ _ _ _
  · exact passOn_actsFor _ _ _ _ _
  · cases cancellationOf r.body with
    | error e => exact .refl tenant s n
    | ok request => exact cancelHold_actsFor _ _ _ _ _ _
  · exact .refl tenant s n

theorem serveRoute_actsFor (s : State) (n : Network) (tenant : String) (r : Request)
    (route : Route) :
    ActsFor tenant s n (s.serveRoute n tenant r route).2.1
      (s.serveRoute n tenant r route).2.2 := by
  unfold serveRoute
  split
  · exact .refl tenant s n
  · cases route.values with
    | error p => exact .refl tenant s n
    | ok values =>
        dsimp only
        split
        · exact .refl tenant s n
        · have hserve := s.serveTenant_actsFor n tenant r route.endpoint values
          generalize s.serveTenant n tenant r route.endpoint values = run at hserve ⊢
          obtain ⟨result, s', n'⟩ := run
          cases result with
          | error e => exact hserve
          | ok response => exact hserve

/-- A request that must say for whom it is made is turned away, or it is let in and served
for the tenant of its API key. -/
theorem servePrivate_cases (s : State) (n : Network) (r : Request) (route : Option Route) :
    (∃ e, (s.authenticate n r).1 = .error e ∧
      (s.servePrivate n r route).2 = (s.authenticate n r).2) ∨
    ∃ key, (s.authenticate n r).1 = .ok key ∧
      ActsFor key.tenant (s.authenticate n r).2.1 (s.authenticate n r).2.2
        (s.servePrivate n r route).2.1 (s.servePrivate n r route).2.2 := by
  unfold servePrivate
  generalize s.authenticate n r = run
  obtain ⟨result, s', n'⟩ := run
  cases result with
  | error e => exact Or.inl ⟨e, rfl, rfl⟩
  | ok key =>
      refine Or.inr ⟨key, rfl, ?_⟩
      cases route with
      | none => exact .refl _ _ _
      | some route => exact serveRoute_actsFor _ _ _ _ _

theorem serveOn_snd (s : State) (n : Network) (r : Request) (route : Option Route) :
    (s.serveOn n r route).2 = (s, n) ∨
      (s.serveOn n r route).2 = (s.servePrivate n r route).2 := by
  unfold serveOn
  split
  · exact Or.inl rfl
  · exact Or.inr rfl

/-- What surrounds an answer has no effect on the gateway or on the network. -/
theorem serve_snd (s : State) (n : Network) (freshId : String) (r : Request) :
    (s.serve n freshId r).2 = (s, n) ∨
      (s.serve n freshId r).2 = (s.serveOn n r (Route.ofPath? r.target.path)).2 := by
  unfold serve
  dsimp only
  by_cases hoptions : (r.method == "OPTIONS") = true
  · left
    rw [if_pos hoptions]
    cases Route.ofPath? r.target.path <;> rfl
  · right
    rw [if_neg hoptions]
    cases Route.ofPath? r.target.path <;> rfl

/-- All that serving a request can come to: nothing happens, the request is turned away,
or it is let in and served for the tenant of its API key. -/
theorem serve_cases (s : State) (n : Network) (freshId : String) (r : Request) :
    (s.serve n freshId r).2 = (s, n) ∨
    (∃ e, (s.authenticate n r).1 = .error e ∧
      (s.serve n freshId r).2 = (s.authenticate n r).2) ∨
    ∃ key, (s.authenticate n r).1 = .ok key ∧
      ActsFor key.tenant (s.authenticate n r).2.1 (s.authenticate n r).2.2
        (s.serve n freshId r).2.1 (s.serve n freshId r).2.2 := by
  rcases s.serve_snd n freshId r with hnothing | hserve
  · exact Or.inl hnothing
  · rw [hserve]
    rcases s.serveOn_snd n r (Route.ofPath? r.target.path) with hnothing | hprivate
    · exact Or.inl hnothing
    · rw [hprivate]
      exact Or.inr (s.servePrivate_cases n r _)

/-- Serving requests does not change what a gateway works with. -/
theorem services_serve (s : State) (n : Network) (freshId : String) (r : Request) :
    (s.serve n freshId r).2.1.services = s.services := by
  have hgate := (s.authenticate_spec n r).1
  rcases s.serve_cases n freshId r with hnothing | ⟨e, -, hrefused⟩ | ⟨key, -, hserved⟩
  · rw [hnothing]
  · rw [hrefused, hgate]
  · rw [hserved.services_eq, hgate]

/-- What arrives at the gate are requests for the keys of the tenant that the API key
names. -/
theorem arrived_authenticate (s : State) (n : Network) (r : Request) :
    ∃ fetched : List Outgoing,
      (s.authenticate n r).2.2.arrived = n.arrived ++ fetched ∧
      ∀ o ∈ fetched, o.headers.values Client.tenantHeader = [] ∧
        ∃ key check, ApiKey.ofRequest r.target r.headers = .ok key ∧
          s.services.tokens = some check ∧
          o ∈ (check.source.fetch n key.tenant).2.arrivedSince n := by
  rcases (s.authenticate_spec n r).2 with hsame | ⟨key, check, hkey, hcheck, hfetch⟩
  · exact ⟨[], by simp [hsame], by simp⟩
  · obtain ⟨os, hos, hvalues⟩ := arrived_fetch check.source n key.tenant
    refine ⟨os, by rw [hfetch, hos], ?_⟩
    intro o ho
    refine ⟨hvalues o ho, key, check, hkey, hcheck, ?_⟩
    rw [Network.arrivedSince_eq hos]
    exact ho

/-- Everything that arrives while a request is served has been asked for at the gate or
behind it: by the token check, which fetches the keys of the API key's tenant, or by the
client of the backend, for that tenant and after an admission. -/
theorem arrived_serve (s : State) (n : Network) (freshId : String) (r : Request) :
    ∃ fetched called : List Outgoing,
      (s.serve n freshId r).2.2.arrived = n.arrived ++ (fetched ++ called) ∧
      (∀ o ∈ fetched, o.headers.values Client.tenantHeader = [] ∧
        ∃ key check, ApiKey.ofRequest r.target r.headers = .ok key ∧
          s.services.tokens = some check ∧
          o ∈ (check.source.fetch n key.tenant).2.arrivedSince n) ∧
      (∀ o ∈ called, ∃ key, Admission s.services.tokens.isSome s n r key ∧
        ∃ before operation,
          o ∈ (s.services.client.perform before key.tenant operation).arrivedSince before) := by
  obtain ⟨fetched, hfetched, hasked⟩ := s.arrived_authenticate n r
  rcases s.serve_cases n freshId r with hnothing | ⟨e, -, hrefused⟩ | ⟨key, hkey, hserved⟩
  · exact ⟨[], [], by simp [hnothing], by simp, by simp⟩
  · exact ⟨fetched, [], by simp [hrefused, hfetched], hasked, by simp⟩
  · obtain ⟨called, hcalled, hmade⟩ := hserved.called
    -- the gate leaves the client as it was
    rw [(s.authenticate_spec n r).1] at hmade
    refine ⟨fetched, called, by rw [hcalled, hfetched, List.append_assoc], hasked, ?_⟩
    exact fun o ho => ⟨key, authenticate_ok hkey, hmade o ho⟩

end State
end Gateway
end PatronGateway
