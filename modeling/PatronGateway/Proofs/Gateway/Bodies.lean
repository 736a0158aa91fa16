import PatronGateway.Proofs.Gateway.PatronPath
import PatronGateway.Proofs.Gateway.Relay

/-!
# What becomes of the body of a request

A body is read at the endpoints that need it, and nowhere else.  There it counts whole or not at
all: a body beyond the limit is refused before the backend is asked for anything, and any other one
is passed on with all its bytes.

* `State.Posts` says of a request that it is let in on the route of something that acts.
* `State.serve_of_tooLong`, `State.hold_handsOver`, `State.cancellation_leads` and
  `State.renewal_ignores_body` are the four things that can become of a body.
* `State.bodies_go_whole_or_not_at_all` puts them together, and
  `State.bodies_need_not_go_once` says what does not hold.
-/

namespace PatronGateway
namespace Gateway

open Access (ApiKey)
open Backend (Client Forward)
open Backend.Client (Operation)
open Http (Headers Network Outgoing Request)

/-- How the body of a request is described, if there is one. -/
def bodyTypes (body : Bytes) : List String :=
  if body = [] then [] else ["application/json"]

/-- The client says nothing of a body by itself. -/
theorem contentTypes_headers (c : Client) (tenant : String) :
    Headers.values (c.headers tenant) "content-type" = [] := by
  unfold Client.headers
  cases c.token <;> rfl

/-- A request that acts goes to the URL of its path, with the body as it is given. -/
theorem exists_passedOn_post (c : Client) (tenant : String) (path : List String) (body : Bytes)
    (u : Url) : ∃ headers,
      c.passedOn tenant (.post path (some body)) u = ⟨"POST", u, headers, body⟩ ∧
      Headers.values headers "content-type" = bodyTypes body := by
  have htypes := contentTypes_headers c tenant
  cases body with
  | nil => exact ⟨_, rfl, htypes⟩
  | cons b bs =>
      refine ⟨_, rfl, ?_⟩
      change Headers.values (c.headers tenant ++ [("content-type", Backend.Answer.jsonType)]) _ = _
      rw [Headers.values_append, htypes]
      rfl

/-- Nobody but an admitted patron asks for something that acts. -/
theorem Endpoint.isPublic_of_acts {e : Endpoint} (h : e.isRead = false) : e.isPublic = false := by
  cases e with
  | health => cases h
  | readiness => cases h
  | _ => rfl

namespace State

/-- The endpoints at which a patron asks for a hold, with the word for what is held. -/
inductive HoldsAt : Endpoint → String → Prop
  | itemHold : HoldsAt .itemHold "item"
  | instanceHold : HoldsAt .instanceHold "instance"

/-- A request is let in on the route of an endpoint that acts, with the method of such a route. -/
structure Posts (s : State) (n : Network) (r : Request) (key : ApiKey) (route : Route) : Prop where
  method_eq : r.method = "POST"
  route_eq : Route.ofPath? r.target.path = some route
  acts : route.endpoint.isRead = false
  key_eq : (s.authenticate n r).1 = .ok key

section

variable {s : State} {n : Network} {r : Request} {key : ApiKey} {route : Route}
  {externalId object : String} {values : List String}

namespace Posts

theorem isPublic_eq (h : s.Posts n r key route) : route.endpoint.isPublic = false :=
  Endpoint.isPublic_of_acts h.acts

theorem takes_eq (h : s.Posts n r key route) : route.endpoint.takes r.method = true := by
  unfold Endpoint.takes
  rw [h.acts, h.method_eq]
  rfl

/-- Such a request is served on its route. -/
theorem serve_eq (h : s.Posts n r key route) (freshId : String) :
    let inner := (s.authenticate n r).2.1.serveRoute (s.authenticate n r).2.2 key.tenant r route
    (s.serve n freshId r).2.2 = inner.2.2 ∧ Wraps r.method inner.1 (s.serve n freshId r).1 :=
  serve_of_admitted freshId h.key_eq h.route_eq h.isPublic_eq (by simp [h.method_eq])

/-- Where the body is within the limit, or is not read, such a request comes to its endpoint. -/
theorem network_serve (h : s.Posts n r key route) (hvalues : route.values = .ok values)
    (hfits : route.endpoint.readsBody = true → r.body.length ≤ s.services.bodyLimit)
    (freshId : String) :
    (s.serve n freshId r).2.2 = ((s.authenticate n r).2.1.serveTenant (s.authenticate n r).2.2
      key.tenant r route.endpoint values).2.2 := by
  have hsame := (s.authenticate_spec n r).1
  rw [← hsame] at hfits
  rw [(h.serve_eq freshId).1, (serveRoute_of_fits h.takes_eq hvalues hfits).2]

end Posts

/-- A body beyond the limit is refused where it is read, and the backend is not asked for
anything. -/
theorem serve_of_tooLong (hposts : s.Posts n r key route) (hvalues : route.values = .ok values)
    (hreads : route.endpoint.readsBody = true) (hlong : s.services.bodyLimit < r.body.length)
    (freshId : String) :
    (s.serve n freshId r).1.status = 413 ∧
      (s.serve n freshId r).2.2 = (s.authenticate n r).2.2 := by
  obtain ⟨hnetwork, hwraps⟩ := hposts.serve_eq freshId
  have hsame := (s.authenticate_spec n r).1
  have halone : route.AnswersAlone (s.authenticate n r).2.1.services.bodyLimit r 413 :=
    .tooLarge hposts.takes_eq hvalues hreads (by rw [hsame]; exact hlong)
  have hmethod : r.method ≠ "OPTIONS" := by simp [hposts.method_eq]
  have hplanned : ∀ values, route.values = .ok values →
      ∃ id ops, route.endpoint.Plan r id values ops :=
    fun _ hread => ⟨"", Route.plan_of_ofPath? r "" hposts.route_eq hposts.isPublic_eq hread⟩
  obtain ⟨hafter, hstatus⟩ :
      ((s.authenticate n r).2.1.serveRoute (s.authenticate n r).2.2 key.tenant r route).2.2 =
        (s.authenticate n r).2.2 ∧
      ((s.authenticate n r).2.1.serveRoute (s.authenticate n r).2.2 key.tenant r route).1.status =
        413 :=
    serveRoute_of_answersAlone hmethod hplanned halone
  exact ⟨hwraps.status_eq.trans hstatus, hnetwork.trans hafter⟩

/-- A body within the limit is passed on whole to hold something, and the request with it is handed
to the network once. -/
theorem hold_handsOver {address : String} {token : Option String} {timeout : Time.Span}
    {id kind : String} (hbuild : Client.build address token timeout = .ok s.services.client)
    (hposts : s.Posts n r key route) (hvalues : route.values = .ok [externalId, object])
    (hholds : HoldsAt route.endpoint kind) (hfits : r.body.length ≤ s.services.bodyLimit)
    (hid : ((s.authenticate n r).2.1.resolve (s.authenticate n r).2.2 key.tenant externalId).1 =
      .ok id) (freshId : String) :
    let m := ((s.authenticate n r).2.1.resolve (s.authenticate n r).2.2 key.tenant externalId).2.2
    ∃ u o, s.services.client.endpoint ["patron", "account", id, kind, object, "hold"] = .ok u ∧
      o.method = "POST" ∧ o.url = u.withoutUserinfo ∧ o.body = r.body ∧
      o.headers.values "content-type" = bodyTypes r.body ∧
      m.HandsOver s.services.client.timeout o (s.serve n freshId r).2.2 := by
  intro m
  have hsame := (s.authenticate_spec n r).1
  obtain ⟨path, hendpoint⟩ := Client.exists_endpoint hbuild
    ["patron", "account", id, kind, object, "hold"]
  have hserved : (s.serve n freshId r).2.2 = (s.services.client.ask m key.tenant
      (.forward (.post ["patron", "account", id, kind, object, "hold"] (some r.body)))).2 := by
    rw [hposts.network_serve hvalues (fun _ => hfits) freshId, ← hsame]
    generalize route.endpoint = e at hholds
    cases hholds <;> exact (passOn_of_ok hid).1
  obtain ⟨headers, hpassed, htypes⟩ := exists_passedOn_post s.services.client key.tenant
    ["patron", "account", id, kind, object, "hold"] r.body (s.services.client.urlOf path)
  refine ⟨_, ⟨"POST", _, headers, r.body⟩, hendpoint, rfl, rfl, rfl, htypes, ?_⟩
  rw [hserved, Client.ask_of_endpoint hendpoint, Client.send_snd, Operation.outgoing, hpassed]
  exact m.send_handsOver s.services.client.timeout ⟨"POST", _, headers, r.body⟩

/-- A valid cancellation within the limit makes the gateway ask who the patron is, unless it knows,
and once the patron has an id, it makes it ask for the hold. -/
theorem cancellation_leads {request : Hold.Request} (hposts : s.Posts n r key route)
    (hvalues : route.values = .ok [externalId, object])
    (hcancels : route.endpoint = .holdCancellation) (hfits : r.body.length ≤ s.services.bodyLimit)
    (hbody : cancellation? r.body = some request) (hvalid : request.validate object = .ok ())
    (hblank : Text.isBlank externalId ≠ true) (freshId : String) :
    let gate := s.authenticate n r
    let resolved := gate.2.1.resolve gate.2.2 key.tenant externalId
    (gate.2.1.known? gate.2.2 key.tenant externalId = none →
      (s.services.client.ask gate.2.2 key.tenant (.lookup externalId)).2.Leads
        (s.serve n freshId r).2.2) ∧
    ∀ id, resolved.1 = .ok id → Text.isBlank id ≠ true →
      (s.services.client.ask resolved.2.2 key.tenant (.fetchHold object)).2.Leads
        (s.serve n freshId r).2.2 := by
  intro gate resolved
  have hsame : gate.2.1.services = s.services := (s.authenticate_spec n r).1
  have hserved : (s.serve n freshId r).2.2 =
      (gate.2.1.cancelHold gate.2.2 key.tenant externalId object request).2.2 := by
    rw [hposts.network_serve hvalues (fun _ => hfits) freshId, hcancels,
      serveTenant_of_cancellation hbody]
  rw [hserved, ← hsame]
  constructor
  · intro hknown
    rw [← network_resolve_of_unknown hblank hknown]
    cases hresult : resolved.1 with
    | error e =>
        rw [cancelHold_of_error hvalid hresult]
        exact Network.Leads.refl _
    | ok id =>
        rw [(cancelHold_of_ok hvalid hresult).1]
        exact desk_cancel_leads _ _ _ _ _ _
  · intro id hid hname
    rw [(cancelHold_of_ok hvalid hid).1]
    exact desk_cancel_leads_fetchHold (check_eq_ok hvalid hname)

/-- At its endpoint, a renewal has no use for a body. -/
theorem serveTenant_renewal_withBody (s : State) (n : Network) (tenant : String) (r : Request)
    (body : Bytes) (values : List String) :
    s.serveTenant n tenant { r with body } .itemRenewal values =
      s.serveTenant n tenant r .itemRenewal values := by
  match values with
  | [] => rfl
  | [_] => rfl
  | [_, _] => rfl
  | _ :: _ :: _ :: _ => rfl

theorem serveRoute_renewal_withBody (s : State) (n : Network) (tenant : String) (r : Request)
    (body : Bytes) (hrenews : route.endpoint = .itemRenewal) :
    s.serveRoute n tenant { r with body } route = s.serveRoute n tenant r route := by
  unfold serveRoute
  simp only [hrenews, Endpoint.readsBody, Bool.false_and, serveTenant_renewal_withBody]

/-- What is asked of the backend for a renewal has no body. -/
theorem Asks.body_of_renewal {k : Network} {tenant : String} {op : Operation}
    (h : s.Asks n tenant r .itemRenewal values k op) (u : Url) :
    (op.outgoing s.services.client tenant u).body = [] ∧
      (op.outgoing s.services.client tenant u).headers.values "content-type" = [] := by
  have htypes := contentTypes_headers s.services.client tenant
  cases h with
  | lookup => exact ⟨rfl, htypes⟩
  | forward _ hplan =>
      cases hplan with
      | itemRenewal => exact ⟨rfl, htypes⟩

/-- The body of a renewal makes no difference, and nothing that arrives for a renewal has one. -/
theorem renewal_ignores_body (hposts : s.Posts n r key route)
    (hrenews : route.endpoint = .itemRenewal) (freshId : String) :
    (∀ body, s.serve n freshId { r with body } = s.serve n freshId r) ∧
    ∀ o ∈ (s.serve n freshId r).2.2.arrivedSince (s.authenticate n r).2.2,
      o.body = [] ∧ o.headers.values "content-type" = [] := by
  constructor
  · intro body
    have hgate : s.authenticate n { r with body } = s.authenticate n r := rfl
    have hprivate : s.servePrivate n { r with body } (some route) =
        s.servePrivate n r (some route) := by
      unfold servePrivate
      rw [hgate]
      simp only [serveRoute_renewal_withBody _ _ _ _ body hrenews]
    unfold serve serveOn
    dsimp only
    rw [hposts.route_eq, Option.filter_some_neg (by simp [hposts.isPublic_eq])]
    dsimp only
    rw [hprivate]
  · intro o ho
    rw [(hposts.serve_eq freshId).1] at ho
    obtain ⟨k, op, hcarries, hmem⟩ := arrived_serveRoute hposts.route_eq hposts.isPublic_eq ho
    obtain ⟨values, -, hasks⟩ := hcarries.asks
    rw [hrenews] at hasks
    exact Client.body_of_mem_perform hmem hasks.body_of_renewal

/-- Bodies are passed on whole or not at all.  Let a request be let in on the route of something
that acts, with ids in its path that can be read.

* To hold something, a body within the limit goes to the backend as it is, described as JSON unless
  it is empty, in one request that is handed to the network once the patron is known.
* A body beyond the limit is refused wherever bodies are read, and nothing at all is asked of the
  backend.
* To cancel a hold, the limit decides alone: within it, a valid cancellation makes the gateway ask
  for the patron and for the hold.
* A renewal is the same with any body, and nothing that arrives for it has one. -/
theorem bodies_go_whole_or_not_at_all {address : String} {token : Option String}
    {timeout : Time.Span} (hbuild : Client.build address token timeout = .ok s.services.client)
    (hposts : s.Posts n r key route) (hvalues : route.values = .ok [externalId, object])
    (freshId : String) :
    let gate := s.authenticate n r
    let resolved := gate.2.1.resolve gate.2.2 key.tenant externalId
    let served := s.serve n freshId r
    let c := s.services.client
    (∀ kind id, HoldsAt route.endpoint kind → r.body.length ≤ s.services.bodyLimit →
      resolved.1 = .ok id →
      ∃ u o, c.endpoint ["patron", "account", id, kind, object, "hold"] = .ok u ∧
        o.method = "POST" ∧ o.url = u.withoutUserinfo ∧ o.body = r.body ∧
        o.headers.values "content-type" = bodyTypes r.body ∧
        resolved.2.2.HandsOver c.timeout o served.2.2) ∧
    (route.endpoint ∈ [.itemHold, .instanceHold, .holdCancellation] →
      s.services.bodyLimit < r.body.length → served.1.status = 413 ∧ served.2.2 = gate.2.2) ∧
    (∀ request, route.endpoint = .holdCancellation → r.body.length ≤ s.services.bodyLimit →
      cancellation? r.body = some request → request.validate object = .ok () →
      Text.isBlank externalId ≠ true →
      (gate.2.1.known? gate.2.2 key.tenant externalId = none →
        (c.ask gate.2.2 key.tenant (.lookup externalId)).2.Leads served.2.2) ∧
      ∀ id, resolved.1 = .ok id → Text.isBlank id ≠ true →
        (c.ask resolved.2.2 key.tenant (.fetchHold object)).2.Leads served.2.2) ∧
    (route.endpoint = .itemRenewal →
      (∀ body, s.serve n freshId { r with body } = served) ∧
      ∀ o ∈ served.2.2.arrivedSince gate.2.2,
        o.body = [] ∧ o.headers.values "content-type" = []) := by
  intro gate resolved served c
  refine ⟨?_, ?_, ?_, fun hrenews => renewal_ignores_body hposts hrenews freshId⟩
  · intro kind id hholds hfits hid
    exact hold_handsOver hbuild hposts hvalues hholds hfits hid freshId
  · intro hmem hlong
    have hreads : route.endpoint.readsBody = true := by
      simp only [List.mem_cons, List.not_mem_nil, or_false] at hmem
      rcases hmem with h | h | h <;> rw [h] <;> rfl
    exact serve_of_tooLong hposts hvalues hreads hlong freshId
  · intro request hcancels hfits hbody hvalid hblank
    exact cancellation_leads hposts hvalues hcancels hfits hbody hvalid hblank freshId

end

/-- A request to hold an item for the patron `1`, with a key of the tenant `diku`. -/
def holdRequest (item : String) (body : Bytes) : Request :=
  ⟨"POST", ⟨"/patron/account/1/item/" ++ item ++ "/hold",
    some "apikey=eyJzIjoieCIsInQiOiJkaWt1IiwidSI6InUifQ"⟩, [], body⟩

/-- A gateway without tokens lets such a request in. -/
theorem posts_holdRequest {item : String} {raw : List Char} (n : Network) (body : Bytes)
    (hroute : Route.ofPath? (holdRequest item body).target.path =
      some ⟨.itemHold, [Route.patron ['1'], ⟨"item_id", raw⟩]⟩) :
    ∃ key, key.tenant = "diku" ∧
      (loopbackStart Client.loopback).authenticate n (holdRequest item body) =
        (.ok key, loopbackStart Client.loopback, n) ∧
      (loopbackStart Client.loopback).Posts n (holdRequest item body) key
        ⟨.itemHold, [Route.patron ['1'], ⟨"item_id", raw⟩]⟩ := by
  have hgiven : (ApiKey.ofRequest
      ⟨"/", some "apikey=eyJzIjoieCIsInQiOiJkaWt1IiwidSI6InUifQ"⟩ []).toOption.map (·.tenant) =
      some "diku" := by
    decide +kernel
  obtain ⟨key, hread, htenant⟩ := Token.ok_of_toOption hgiven
  have hgate : (loopbackStart Client.loopback).authenticate n (holdRequest item body) =
      (.ok key, loopbackStart Client.loopback, n) := by
    unfold authenticate
    have hread : ApiKey.ofRequest (holdRequest item body).target (holdRequest item body).headers =
      .ok key := hread
    rw [hread]
    rfl
  exact ⟨key, htenant, hgate, rfl, hroute, rfl, by rw [hgate]⟩

/-- A body that is one byte too long for a gateway of `loopbackStart`. -/
def longBody : Bytes := List.replicate 1001 0

theorem length_longBody : 1000 < longBody.length := by
  unfold longBody
  rw [List.length_replicate]
  decide

/-- Bytes that are no text go to the backend as they are, and one byte beyond the limit keeps a
body from it. -/
theorem bodies_go_whole_or_not_at_all_binary :
    let s := loopbackStart Client.loopback
    let m := (s.resolve namingNetwork "diku" "1").2.2
    Client.build "http://[::1]:9130" (some "secret") (Time.Span.ofSeconds 10) =
      .ok s.services.client ∧
    (s.resolve namingNetwork "diku" "1").1 = .ok "u" ∧
    (∃ o, o.method = "POST" ∧ o.body = [0xFF, 0x00] ∧
      o.headers.values "content-type" = ["application/json"] ∧
      m.HandsOver s.services.client.timeout o
        (s.serve namingNetwork "1" (holdRequest "i" [0xFF, 0x00])).2.2) ∧
    (s.serve namingNetwork "1" (holdRequest "i" longBody)).1.status = 413 ∧
      (s.serve namingNetwork "1" (holdRequest "i" longBody)).2.2.arrived = [] := by
  have hbuild : Client.build "http://[::1]:9130" (some "secret") (Time.Span.ofSeconds 10) =
    .ok (loopbackStart Client.loopback).services.client := rfl
  have hlimit : (loopbackStart Client.loopback).services.bodyLimit = 1000 := rfl
  have hfound : ((loopbackStart Client.loopback).resolve namingNetwork "diku" "1").1.toOption.map
      (·.toList) = some ['u'] := by decide +kernel
  obtain ⟨_, hid, hname⟩ := Token.ok_of_toOption hfound
  obtain rfl := String.toList_inj.mp (hname.trans (show ['u'] = "u".toList from rfl))
  have hroute (body : Bytes) : Route.ofPath? (holdRequest "i" body).target.path =
      some ⟨.itemHold, [Route.patron ['1'], ⟨"item_id", ['i']⟩]⟩ := by
    change Route.ofPath? ("/patron/account/1/item/" ++ "i" ++ "/hold") = _
    decide +kernel
  have hvalues : Route.values ⟨.itemHold, [Route.patron ['1'], ⟨"item_id", ['i']⟩]⟩ =
    .ok ["1", "i"] := rfl
  obtain ⟨key, htenant, hgate, hposts⟩ := posts_holdRequest namingNetwork [0xFF, 0x00] (hroute _)
  obtain ⟨key', -, hgate', hposts'⟩ := posts_holdRequest namingNetwork longBody (hroute _)
  have hbody : (holdRequest "i" [0xFF, 0x00]).body = [0xFF, 0x00] := rfl
  have hlong : 1000 < (holdRequest "i" longBody).body.length := length_longBody
  have hquiet : namingNetwork.arrived = [] := rfl
  dsimp only
  -- nothing is to be computed any more
  generalize loopbackStart Client.loopback = s at hgate hgate' hposts hposts' hbuild hlimit hid ⊢
  generalize holdRequest "i" [0xFF, 0x00] = r at hgate hposts hbody ⊢
  generalize holdRequest "i" longBody = r' at hgate' hposts' hlong ⊢
  obtain ⟨hpassed, -, -, -⟩ := bodies_go_whole_or_not_at_all hbuild hposts hvalues "1"
  obtain ⟨-, hrefused, -, -⟩ := bodies_go_whole_or_not_at_all hbuild hposts' hvalues "1"
  obtain ⟨hstatus, hnetwork⟩ := hrefused (by simp) (by rw [hlimit]; exact hlong)
  rw [hgate, htenant] at hpassed
  obtain ⟨_, o, -, hmethod, -, hwhole, htypes, hhands⟩ := hpassed "item" "u" .itemHold
    (by rw [hlimit, hbody]; decide) hid
  rw [hbody] at hwhole htypes
  rw [hgate'] at hnetwork
  exact ⟨hbuild, hid, ⟨o, hmethod, hwhole, htypes, hhands⟩, hstatus, by rw [hnetwork, hquiet]⟩

/-- A network that names a patron and then redirects a request with its body. -/
def divertingAfterLookup : Network :=
  { namingNetwork with reactions := namingNetwork.reactions ++
      [.reply ⟨307, none, some "/elsewhere", [], false, 0, 0⟩] }

/-- There are two exceptions.  A request can be made more than once: a redirect makes the body
arrive again.  And a body beyond the limit counts only where the ids of the path can be read. -/
theorem bodies_need_not_go_once :
    (¬ ∀ (s : State) (n : Network) (r : Request) (key : ApiKey) (route : Route)
      (externalId object id kind freshId : String), s.Posts n r key route →
      route.values = .ok [externalId, object] → HoldsAt route.endpoint kind →
      r.body.length ≤ s.services.bodyLimit →
      ((s.authenticate n r).2.1.resolve (s.authenticate n r).2.2 key.tenant externalId).1 = .ok id →
      ((s.serve n freshId r).2.2.arrivedSince ((s.authenticate n r).2.1.resolve
        (s.authenticate n r).2.2 key.tenant externalId).2.2).length ≤ 1) ∧
    ¬ ∀ (s : State) (n : Network) (r : Request) (key : ApiKey) (route : Route)
      (kind freshId : String), s.Posts n r key route → HoldsAt route.endpoint kind →
      s.services.bodyLimit < r.body.length → (s.serve n freshId r).1.status = 413 := by
  constructor
  · intro honce
    have hroute : Route.ofPath? (holdRequest "i" [1]).target.path =
        some ⟨.itemHold, [Route.patron ['1'], ⟨"item_id", ['i']⟩]⟩ := by
      decide +kernel
    obtain ⟨key, htenant, hgate, hposts⟩ := posts_holdRequest divertingAfterLookup [1] hroute
    have hfound : ((loopbackStart Client.loopback).resolve divertingAfterLookup "diku"
        "1").1.toOption.map (·.toList) = some ['u'] := by decide +kernel
    obtain ⟨id, hid, -⟩ := Token.ok_of_toOption hfound
    have htwice : 1 < ((((loopbackStart Client.loopback).serve divertingAfterLookup "1"
        (holdRequest "i" [1])).2.2.arrivedSince
        ((loopbackStart Client.loopback).resolve divertingAfterLookup "diku" "1").2.2).length) := by
      decide +kernel
    have hvalues : Route.values ⟨.itemHold, [Route.patron ['1'], ⟨"item_id", ['i']⟩]⟩ =
      .ok ["1", "i"] := rfl
    have hfits : (holdRequest "i" [1]).body.length ≤
      (loopbackStart Client.loopback).services.bodyLimit := by decide
    generalize loopbackStart Client.loopback = s at hgate hposts hid htwice hfits
    generalize holdRequest "i" [1] = r at hgate hposts htwice hfits
    have hone := honce s divertingAfterLookup r key _ "1" "i" id "item" "1" hposts hvalues .itemHold
      hfits
    rw [hgate, htenant] at hone
    exact absurd (hone hid) (Nat.not_le.mpr htwice)
  · intro hrefused
    have hroute : Route.ofPath? (holdRequest "%FF" longBody).target.path =
        some ⟨.itemHold, [Route.patron ['1'], ⟨"item_id", "%FF".toList⟩]⟩ := by
      decide +kernel
    obtain ⟨key, -, -, hposts⟩ := posts_holdRequest namingNetwork longBody hroute
    have hunread : ((loopbackStart Client.loopback).serve namingNetwork "1"
        (holdRequest "%FF" longBody)).1.status = 400 := by
      decide +kernel
    have hlong : (loopbackStart Client.loopback).services.bodyLimit <
      (holdRequest "%FF" longBody).body.length := length_longBody
    generalize loopbackStart Client.loopback = s at hposts hunread hlong
    generalize holdRequest "%FF" longBody = r at hposts hunread hlong
    rw [hrefused s namingNetwork r key _ "item" "1" hposts .itemHold hlong] at hunread
    cases hunread

end State
end Gateway
end PatronGateway
