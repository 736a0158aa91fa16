import PatronGateway.Proofs.Backend.Reply
import PatronGateway.Proofs.Gateway.Serving

/-!
# Answers that come back unchanged

The answer to a request that is passed on, the answer to the submission of a cancellation, and
the answer that keeps a hold from being read are what the client gets: with the same status, the
same content type and the same bytes.  On their way they are taken over twice, from the network
and into the response, and the last of them goes by way of an error.

* `GoesBack` says which answers these are, and `Copies` what it is that the client gets.
* `State.Asks` says what is asked of the backend behind the gate; `State.arrived_serveRoute` says
  that nothing arrives but what is asked so.
* `State.serve_copies_replies` is the statement about a whole request, with or without redirects
  on the way.
-/

namespace PatronGateway
namespace Gateway

open Backend (Answer Forward)
open Backend.Client (Operation foundHold)
open Http (Headers Network Outgoing Reply Request Response)

/-- Answers of a status to an operation go back to the client. -/
inductive GoesBack : Operation → Nat → Prop
  | forward (request : Forward) (status : Nat) : GoesBack (.forward request) status
  | submit (patronId holdId : String) (payload : Hold.Payload) (status : Nat) :
      GoesBack (.submit patronId holdId payload) status
  | fetchHold (holdId : String) {status : Nat} (hmissing : status ≠ 404)
      (hrefused : ¬ (200 ≤ status ∧ status < 300)) : GoesBack (.fetchHold holdId) status

/-- A response has the status, the content type and the body of a reply as it arrives, and has
no content type where the reply has none. -/
structure Copies (reply : Reply) (response : Response) : Prop where
  status_eq : response.status = reply.status
  contentType_eq : (Headers.values response.headers "content-type").map Text.Utf8.encode =
    reply.contentType.toList
  body_eq : response.body = reply.deliver.body

/-- What passes on an answer that has been kept copies the reply, if its status is one that HTTP
can carry and the client asks for more than the header fields. -/
theorem Relays.copies {method : String} {a : Answer} {response : Response} {reply : Reply}
    (h : Relays method a response) (hkeeps : a.Keeps reply) (hmethod : method ≠ "HEAD")
    (hstatus : 100 ≤ reply.status ∧ reply.status < 1000) : Copies reply response where
  status_eq := by
    rw [h.status_eq, hkeeps.status_eq]
    exact if_pos hstatus
  contentType_eq := by rw [h.contentType_eq, hkeeps.contentType_eq]
  body_eq := (h.body_eq hmethod).trans hkeeps.body_eq

/-- An answer to the reading of a hold that goes back is told as an error. -/
theorem foundHold_of_goesBack {holdId : String} {a : Answer}
    (h : GoesBack (.fetchHold holdId) a.status) : foundHold a = .error (.status a) := by
  cases h with
  | fetchHold _ hmissing hrefused =>
      have hnot : a.isSuccess = false := by
        unfold Answer.isSuccess
        simpa using hrefused
      unfold foundHold
      rw [if_neg hmissing, if_neg (by simp [hnot])]

theorem validate_of_check {patronId holdId : String} {request : Hold.Request}
    (h : Hold.check patronId holdId request = .ok ()) : request.validate holdId = .ok () := by
  unfold Hold.check at h
  split at h
  · cases h
  · split at h
    · rename_i hvalid
      exact hvalid
    · cases h

namespace State

/-- What is asked of the backend for a request behind the gate, at an endpoint with the values of
its path, and in which state the network is then: the lookup of the patron, unless the cache
knows the patron, and, once the patron is known, what the endpoint asks for. -/
inductive Asks (s : State) (n : Network) (tenant : String) (r : Request) :
    Endpoint → List String → Network → Operation → Prop
  | lookup {e : Endpoint} {externalId : String} {others : List String}
      (hblank : Text.isBlank externalId ≠ true) (hknown : s.known? n tenant externalId = none) :
      Asks s n tenant r e (externalId :: others) n (.lookup externalId)
  | forward {e : Endpoint} {externalId id : String} {others : List String} {request : Forward}
      (hid : (s.resolve n tenant externalId).1 = .ok id)
      (hplan : e.Plan r id (externalId :: others) [.forward request]) :
      Asks s n tenant r e (externalId :: others) (s.resolve n tenant externalId).2.2
        (.forward request)
  | fetchHold {externalId holdId id : String} {request : Hold.Request}
      (hid : (s.resolve n tenant externalId).1 = .ok id)
      (hbody : cancellation? r.body = some request)
      (hcheck : Hold.check id holdId request = .ok ()) :
      Asks s n tenant r .holdCancellation [externalId, holdId]
        (s.resolve n tenant externalId).2.2 (.fetchHold holdId)
  | submit {externalId holdId id : String} {request : Hold.Request} {hold : Hold.Record}
      {k : Network} (hid : (s.resolve n tenant externalId).1 = .ok id)
      (hbody : cancellation? r.body = some request)
      (hcheck : Hold.check id holdId request = .ok ())
      (hfound : s.services.client.fetchHold (s.resolve n tenant externalId).2.2 tenant holdId =
        (.ok hold, k)) :
      Asks s n tenant r .holdCancellation [externalId, holdId] k
        (.submit id holdId (Hold.Payload.merge hold request (s.calendar.dateAt k.now)))

section

variable {s : State} {n k m : Network} {tenant : String} {r : Request} {e : Endpoint}
  {values : List String} {externalId : String} {others : List String} {op : Operation}
  {a : Answer} {o : Outgoing}

/-! ## What the client is given -/

/-- The answer to a request that is passed on is the response. -/
theorem responseOf_passOn {id : String} {make : String → Forward}
    (hid : (s.resolve n tenant externalId).1 = .ok id)
    (hask : s.services.client.ask (s.resolve n tenant externalId).2.2 tenant
      (.forward (make id)) = (.ok a, m)) :
    responseOf (s.passOn n tenant externalId make).1 = relay a := by
  rw [(passOn_of_ok hid).2, hask]
  rfl

/-- An answer that goes back is the response at the endpoint. -/
theorem Asks.response_eq (h : s.Asks n tenant r e values k op)
    (hask : s.services.client.ask k tenant op = (.ok a, m)) (hback : GoesBack op a.status) :
    responseOf (s.serveTenant n tenant r e values).1 = relay a := by
  cases h with
  | lookup => cases hback
  | forward hid hplan =>
      cases hplan with
      | account => exact responseOf_passOn hid hask
      | itemRenewal => exact responseOf_passOn hid hask
      | itemHold => exact responseOf_passOn hid hask
      | instanceHold => exact responseOf_passOn hid hask
  | fetchHold hid hbody hcheck =>
      have hlost := (congrArg (fun asked => asked.1.bind foundHold) hask).trans
        (foundHold_of_goesBack hback)
      rw [serveTenant_of_cancellation hbody, (cancelHold_of_ok (validate_of_check hcheck) hid).2,
        desk_cancel_of_lost hcheck hlost]
      rfl
  | submit hid hbody hcheck hfound =>
      have hread := congrArg Prod.fst hfound
      have hafter := congrArg Prod.snd hfound
      rw [Backend.Client.fetchHold_eq_ask] at hread hafter
      dsimp only at hread hafter
      rw [serveTenant_of_cancellation hbody, (cancelHold_of_ok (validate_of_check hcheck) hid).2,
        desk_cancel_of_found hcheck hread, hafter]
      dsimp only
      rw [hask]
      rfl

/-! ## What arrives -/

theorem mem_of_leads (h : n.Leads k) (h' : k.Leads m) (ho : o ∈ m.arrivedSince n) :
    o ∈ k.arrivedSince n ∨ o ∈ m.arrivedSince k := by
  rw [h.arrivedSince_eq h'] at ho
  exact List.mem_append.mp ho

/-- Resolving a patron leaves the network alone, or asks for the patron. -/
theorem network_resolve_cases (s : State) (n : Network) (tenant externalId : String) :
    (s.resolve n tenant externalId).2.2 = n ∨
    (Text.isBlank externalId ≠ true ∧ s.known? n tenant externalId = none ∧
      (s.resolve n tenant externalId).2.2 =
        (s.services.client.ask n tenant (.lookup externalId)).2) := by
  by_cases hblank : Text.isBlank externalId = true
  · obtain ⟨slot, hresolve⟩ := resolve_of_blank hblank
    exact Or.inl (by rw [hresolve])
  · cases hknown : s.known? n tenant externalId with
    | some id =>
        obtain ⟨slot, hresolve⟩ := resolve_of_known hblank hknown
        exact Or.inl (by rw [hresolve])
    | none => exact Or.inr ⟨hblank, rfl, network_resolve_of_unknown hblank hknown⟩

theorem resolve_leads (s : State) (n : Network) (tenant externalId : String) :
    n.Leads (s.resolve n tenant externalId).2.2 := by
  rcases s.network_resolve_cases n tenant externalId with hsame | ⟨-, -, hasked⟩
  · rw [hsame]
    exact Network.Leads.refl n
  · rw [hasked]
    exact Backend.Client.ask_leads _ _ _ _

/-- A request has been made to arrive by something that is asked of the backend. -/
def Accounted (s : State) (n : Network) (tenant : String) (r : Request) (e : Endpoint)
    (values : List String) (o : Outgoing) : Prop :=
  ∃ k op, s.Asks n tenant r e values k op ∧
    o ∈ (s.services.client.perform k tenant op).arrivedSince k

theorem Asks.accounted (h : s.Asks n tenant r e values k op)
    (ho : o ∈ (s.services.client.ask k tenant op).2.arrivedSince k) :
    s.Accounted n tenant r e values o := by
  refine ⟨k, op, h, ?_⟩
  rw [Backend.Client.perform_eq_sendTo]
  exact ho

theorem arrived_resolve (ho : o ∈ (s.resolve n tenant externalId).2.2.arrivedSince n) :
    s.Accounted n tenant r e (externalId :: others) o := by
  rcases s.network_resolve_cases n tenant externalId with hsame | ⟨hblank, hknown, hasked⟩
  · rw [hsame, Network.arrivedSince_self] at ho
    cases ho
  · rw [hasked] at ho
    exact (Asks.lookup hblank hknown).accounted ho

theorem arrived_passOn {make : String → Forward}
    (hplan : ∀ id, e.Plan r id (externalId :: others) [.forward (make id)])
    (ho : o ∈ (s.passOn n tenant externalId make).2.2.arrivedSince n) :
    s.Accounted n tenant r e (externalId :: others) o := by
  cases hresult : (s.resolve n tenant externalId).1 with
  | error e' =>
      rw [passOn_of_error hresult] at ho
      exact arrived_resolve ho
  | ok id =>
      rw [(passOn_of_ok hresult).1] at ho
      rcases mem_of_leads (s.resolve_leads n tenant externalId)
        (Backend.Client.ask_leads _ _ _ _) ho with hfirst | hthen
      · exact arrived_resolve hfirst
      · exact (Asks.forward hresult (hplan id)).accounted hthen

theorem arrived_cancelHold {holdId : String} {request : Hold.Request}
    (hbody : cancellation? r.body = some request)
    (ho : o ∈ (s.cancelHold n tenant externalId holdId request).2.2.arrivedSince n) :
    s.Accounted n tenant r .holdCancellation [externalId, holdId] o := by
  cases hvalid : request.validate holdId with
  | error f =>
      rw [cancelHold_of_fault hvalid, Network.arrivedSince_self] at ho
      cases ho
  | ok checked =>
      cases hresult : (s.resolve n tenant externalId).1 with
      | error e' =>
          rw [cancelHold_of_error hvalid hresult] at ho
          exact arrived_resolve ho
      | ok id =>
          rw [(cancelHold_of_ok hvalid hresult).1] at ho
          rcases mem_of_leads (s.resolve_leads n tenant externalId)
            (s.desk_cancel_leads _ _ _ _ _) ho with hfirst | hthen
          · exact arrived_resolve hfirst
          · clear ho
            cases hcheck : Hold.check id holdId request with
            | error e' =>
                rw [Hold.Desk.cancel_of_refused hcheck, Network.arrivedSince_self] at hthen
                cases hthen
            | ok checked =>
                have hfetches := Asks.fetchHold hresult hbody hcheck
                cases hfound : (s.services.client.ask (s.resolve n tenant externalId).2.2 tenant
                    (.fetchHold holdId)).1.bind foundHold with
                | error e' =>
                    rw [desk_cancel_of_lost hcheck hfound] at hthen
                    exact hfetches.accounted hthen
                | ok hold =>
                    rw [desk_cancel_of_found hcheck hfound] at hthen
                    rcases mem_of_leads (Backend.Client.ask_leads _ _ _ _)
                      (Backend.Client.ask_leads _ _ _ _) hthen with hread | hsubmitted
                    · exact hfetches.accounted hread
                    · refine (Asks.submit hresult hbody hcheck ?_).accounted hsubmitted
                      rw [Backend.Client.fetchHold_eq_ask, hfound]

/-- At an endpoint nothing arrives but what is asked of the backend. -/
theorem arrived_serveTenant {id : String} {ops : List Operation} (hplan : e.Plan r id values ops)
    (ho : o ∈ (s.serveTenant n tenant r e values).2.2.arrivedSince n) :
    s.Accounted n tenant r e values o := by
  cases hplan with
  | account externalId => exact arrived_passOn (fun _ => .account externalId) ho
  | itemRenewal externalId item => exact arrived_passOn (fun _ => .itemRenewal externalId item) ho
  | itemHold externalId item => exact arrived_passOn (fun _ => .itemHold externalId item) ho
  | instanceHold externalId instanceId =>
      exact arrived_passOn (fun _ => .instanceHold externalId instanceId) ho
  | holdCancellation externalId holdId =>
      cases hbody : cancellation? r.body with
      | none =>
          obtain ⟨message, hrefused⟩ := cancellationOf_of_none hbody
          unfold serveTenant at ho
          rw [hrefused, Network.arrivedSince_self] at ho
          cases ho
      | some request =>
          rw [serveTenant_of_cancellation hbody] at ho
          exact arrived_cancelHold hbody ho

end

/-! ## On a route and from the gate on -/

/-- What is asked of the backend for a request on a route, which has to pass what the route
checks first. -/
structure CarriesOut (s : State) (n : Network) (tenant : String) (r : Request) (route : Route)
    (k : Network) (op : Operation) : Prop where
  takes : route.endpoint.takes r.method = true
  fits : route.endpoint.readsBody = true → r.body.length ≤ s.services.bodyLimit
  asks : ∃ values, route.values = .ok values ∧ s.Asks n tenant r route.endpoint values k op

section

variable {s : State} {n k m : Network} {tenant : String} {r : Request} {route : Route}
  {op : Operation} {a : Answer} {o : Outgoing} {key : Access.ApiKey}

theorem CarriesOut.response_eq (h : s.CarriesOut n tenant r route k op)
    (hask : s.services.client.ask k tenant op = (.ok a, m)) (hback : GoesBack op a.status) :
    (s.serveRoute n tenant r route).1 = relay a := by
  obtain ⟨htakes, hfits, values, hvalues, hasks⟩ := h
  rw [(serveRoute_of_fits htakes hvalues hfits).1]
  exact hasks.response_eq hask hback

/-- On the route of a patron nothing arrives but what is asked of the backend. -/
theorem arrived_serveRoute (hroute : Route.ofPath? r.target.path = some route)
    (hpatron : route.endpoint.isPublic = false)
    (ho : o ∈ (s.serveRoute n tenant r route).2.2.arrivedSince n) :
    ∃ k op, s.CarriesOut n tenant r route k op ∧
      o ∈ (s.services.client.perform k tenant op).arrivedSince k := by
  cases htakes : route.endpoint.takes r.method with
  | false =>
      unfold serveRoute at ho
      rw [if_pos (by simp [htakes]), Network.arrivedSince_self] at ho
      cases ho
  | true =>
      cases hvalues : route.values with
      | error p =>
          unfold serveRoute at ho
          rw [if_neg (by simp [htakes]), hvalues, Network.arrivedSince_self] at ho
          cases ho
      | ok values =>
          by_cases hfits : route.endpoint.readsBody = true → r.body.length ≤ s.services.bodyLimit
          · obtain ⟨ops, hplan⟩ := Route.plan_of_ofPath? r "" hroute hpatron hvalues
            rw [(serveRoute_of_fits htakes hvalues hfits).2] at ho
            obtain ⟨k, op, hasks, hmem⟩ := arrived_serveTenant hplan ho
            exact ⟨k, op, ⟨htakes, hfits, values, hvalues, hasks⟩, hmem⟩
          · have hlong : (route.endpoint.readsBody &&
                decide (s.services.bodyLimit < r.body.length)) = true := by
              simpa using hfits
            unfold serveRoute at ho
            rw [if_neg (by simp [htakes]), hvalues] at ho
            dsimp only at ho
            rw [if_pos hlong, Network.arrivedSince_self] at ho
            cases ho

/-- What the client gets for a request that is let in on the route of a patron.  All that arrives
at the backend is asked for by the operations that the request carries out.  Where one of them is
answered with a reply whose answer goes back, be it behind redirects, and the reply arrives whole
and has a readable content type or none, the client gets just that reply. -/
theorem serve_copies_replies (freshId : String) (hkey : (s.authenticate n r).1 = .ok key)
    (hroute : Route.ofPath? r.target.path = some route)
    (hpatron : route.endpoint.isPublic = false) (hmethod : r.method = "GET" ∨ r.method = "POST") :
    let held := (s.authenticate n r).2.1
    let gate := (s.authenticate n r).2.2
    let served := s.serve n freshId r
    (∀ o ∈ served.2.2.arrivedSince gate, ∃ k op,
      held.CarriesOut gate key.tenant r route k op ∧
      o ∈ (held.services.client.perform k key.tenant op).arrivedSince k) ∧
    ∀ k op reply m, held.CarriesOut gate key.tenant r route k op →
      held.services.client.Answered k key.tenant op reply m → GoesBack op reply.status →
      reply.IsWhole → reply.HasReadableType → 100 ≤ reply.status ∧ reply.status < 1000 →
      Copies reply served.1 := by
  intro held gate served
  have hother : r.method ≠ "OPTIONS" ∧ r.method ≠ "HEAD" := by
    rcases hmethod with hget | hpost
    · rw [hget]
      decide
    · rw [hpost]
      decide
  obtain ⟨hnetwork, hwraps⟩ := serve_of_admitted freshId hkey hroute hpatron hother.1
  constructor
  · intro o ho
    have ho : o ∈ (s.serve n freshId r).2.2.arrivedSince gate := ho
    rw [hnetwork] at ho
    exact arrived_serveRoute hroute hpatron ho
  · intro k op reply m hcarries hanswered hback hwhole hreadable hstatus
    obtain ⟨a, hask, hkeeps⟩ :=
      Backend.Client.exists_ask_of_answered hanswered hwhole hreadable
    rw [← hkeeps.status_eq] at hback
    have hresponse := hcarries.response_eq hask hback
    rw [hresponse] at hwraps
    exact (hwraps.relays (relays_relay r.method a)).copies hkeeps hother.2 hstatus

end

end State

namespace World

/-- The answers to the lookup of a patron, and to the request that is passed on: a redirect, and
then an answer whose body is no text. -/
def teapotScript : List Http.Reaction :=
  [jsonReply "\x7b\"users\":[\x7b\"id\":\"u\"\x7d]\x7d",
    .reply ⟨302, none, some "/elsewhere", [], false, 0, 0⟩,
    .reply ⟨418, some (Text.Utf8.encode "image/png"), none, [0x89, 0x50, 0xFF, 0x00], true, 0, 0⟩]

/-- What is passed on for the account of the patron `u`. -/
def teapotRequest : Forward :=
  (Forward.get ["patron", "account", "u"]).withQuery (accountQuery accountRequest.target.query)

/-- A client gets the answer behind the redirect, with all its bytes. -/
theorem serve_copies_replies_teapot : ∃ services,
    Services.ofConfig .blank { guardedConfig with auth := ⟨false, none⟩ } = .ok services ∧
    let w := scriptedStart services teapotScript
    ∃ reply, reply.status = 418 ∧ reply.deliver.body = [0x89, 0x50, 0xFF, 0x00] ∧
      Copies reply (w.state.serve w.network "1" accountRequest).1 := by
  have hrun : ∃ services,
      Services.ofConfig .blank { guardedConfig with auth := ⟨false, none⟩ } = .ok services ∧
      let w := scriptedStart services teapotScript
      let gate := w.state.authenticate w.network accountRequest
      let resolved := gate.2.1.resolve gate.2.2 "diku" "1"
      let asked := gate.2.1.services.client.ask resolved.2.2 "diku" (.forward teapotRequest)
      (gate.1.toOption.map (·.tenant), resolved.1.toOption.map id, asked.1.toOption.map id) =
        (some "diku", some "u", some ⟨418, some "image/png", [0x89, 0x50, 0xFF, 0x00]⟩) := by
    apply Token.ok_of_toOption
    decide +kernel
  have hpath : (Route.ofPath? accountRequest.target.path).map
      (fun route => (route.endpoint, route.values.toOption.map id)) =
      some (.account, some ["1"]) := by
    decide +kernel
  obtain ⟨route, hroute, hshape⟩ := Option.map_eq_some_iff.mp hpath
  obtain ⟨hendpoint, hread⟩ := Prod.mk.inj hshape
  obtain ⟨values, hvalues, rfl⟩ := Token.ok_of_toOption hread
  obtain ⟨services, hservices, hfacts⟩ := hrun
  refine ⟨services, hservices, ?_⟩
  generalize scriptedStart services teapotScript = w at hfacts ⊢
  have hserve := fun key =>
    @State.serve_copies_replies w.state w.network accountRequest route key "1"
  -- nothing is to be computed any more
  dsimp only at hserve hfacts ⊢
  generalize w.state.authenticate w.network accountRequest = gate at hserve hfacts
  simp only [Prod.mk.injEq] at hfacts
  obtain ⟨htenant, hresolved, hasked⟩ := hfacts
  obtain ⟨key, hkey, hdiku⟩ := Token.ok_of_toOption htenant
  obtain ⟨_, hid, rfl⟩ := Token.ok_of_toOption hresolved
  obtain ⟨_, hresult, rfl⟩ := Token.ok_of_toOption hasked
  obtain ⟨reply, hanswered, haccept⟩ := Backend.Client.answered_of_ask (Prod.ext hresult rfl)
  obtain ⟨hwhole, hsame⟩ := Backend.Client.eq_of_accept haccept
  obtain ⟨hstatus, htype, hbody⟩ := Backend.Answer.mk.inj hsame
  have hcarries : gate.2.1.CarriesOut gate.2.2 "diku" accountRequest route
      (gate.2.1.resolve gate.2.2 "diku" "1").2.2 (.forward teapotRequest) := by
    refine ⟨by rw [hendpoint]; rfl, by rw [hendpoint]; exact nofun, ["1"], hvalues, ?_⟩
    rw [hendpoint]
    exact .forward hid (.account "1")
  obtain ⟨-, hcopies⟩ := hserve key hkey hroute (by rw [hendpoint]; rfl) (Or.inl rfl)
  rw [hdiku] at hcopies
  exact ⟨reply, hstatus.symm, hbody.symm, hcopies _ _ reply _ hcarries hanswered
    (.forward _ _) hwhole (Http.Reply.hasReadableType_of_readable? htype.symm)
    (by rw [← hstatus]; decide)⟩

end World
end Gateway
end PatronGateway
