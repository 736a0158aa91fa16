import PatronGateway.Proofs.Gateway.Calls
import PatronGateway.Proofs.Gateway.World

/-!
# Serving the request of a patron

A request on the route of a patron is answered by the gateway alone, or it follows a plan: the
lookup of the patron, unless the cache knows the patron, and then what the route asks for.

* `Route.AnswersAlone` says when the gateway answers alone, and with what status.
* `Endpoint.Plan` says what a route asks for once its patron is known.
* `State.serve_follows_plan` says that there is nothing else, whatever the gateway has gone
  through before.
-/

namespace PatronGateway
namespace Gateway

open Backend (Forward)
open Backend.Client (Operation)
open Http (Headers Network Request Response)

/-! ## Routes of patrons -/

/-- What a request asks of the backend once its patron is known by an id. -/
inductive Endpoint.Plan (r : Request) (id : String) :
    Endpoint → List String → List Operation → Prop
  | account (externalId : String) :
      Plan r id .account [externalId]
        [.forward ((Forward.get ["patron", "account", id]).withQuery
          (accountQuery r.target.query))]
  | itemRenewal (externalId item : String) :
      Plan r id .itemRenewal [externalId, item]
        [.forward (.post ["patron", "account", id, "item", item, "renew"] none)]
  | itemHold (externalId item : String) :
      Plan r id .itemHold [externalId, item]
        [.forward (.post ["patron", "account", id, "item", item, "hold"] (some r.body))]
  | instanceHold (externalId instanceId : String) :
      Plan r id .instanceHold [externalId, instanceId]
        [.forward (.post ["patron", "account", id, "instance", instanceId, "hold"]
          (some r.body))]
  | holdCancellation (externalId hold : String) (payload : Hold.Payload) :
      Plan r id .holdCancellation [externalId, hold]
        [.fetchHold hold, .submit id hold payload]

/-- The first value of a route is the name of its patron. -/
theorem Endpoint.Plan.exists_cons {r : Request} {id : String} {e : Endpoint}
    {values : List String} {ops : List Operation} (h : e.Plan r id values ops) :
    ∃ externalId others, values = externalId :: others := by
  cases h <;> exact ⟨_, _, rfl⟩

/-- The cancellation that a body asks for, if it can be read. -/
def cancellation? (body : Bytes) : Option Hold.Request :=
  (Json.Document.readBytes? body).bind Hold.Request.ofDocument?

theorem cancellationOf_of_none {body : Bytes} (h : cancellation? body = none) :
    ∃ message, cancellationOf body = .error (.badRequest message) := by
  unfold cancellation? at h
  unfold cancellationOf
  rw [h]
  exact ⟨_, rfl⟩

theorem cancellationOf_of_some {body : Bytes} {request : Hold.Request}
    (h : cancellation? body = some request) : cancellationOf body = .ok request := by
  unfold cancellation? at h
  unfold cancellationOf
  rw [h]

/-- A request has the body that its endpoint needs: a cancellation can be read, and is one of
the hold of the path. -/
def Endpoint.Sound (r : Request) (e : Endpoint) (others : List String) : Prop :=
  e = .holdCancellation → ∀ holdId, others = [holdId] →
    ∃ request, cancellation? r.body = some request ∧ request.validate holdId = .ok ()

/-- When the gateway answers a request on a route without the backend, and with what status.
The method counts first, then the parameters of the path, the length of the body, and, of a
cancellation, what its body says; the name of the patron counts last. -/
inductive Route.AnswersAlone (limit : Nat) (r : Request) (route : Route) : Nat → Prop
  | preflight (hmethod : r.method = "OPTIONS") : AnswersAlone limit r route 200
  | method (hmethod : r.method ≠ "OPTIONS") (htakes : route.endpoint.takes r.method = false) :
      AnswersAlone limit r route 405
  | parameter {p : Parameter} (htakes : route.endpoint.takes r.method = true)
      (hvalues : route.values = .error p) : AnswersAlone limit r route 400
  | tooLarge {values : List String} (htakes : route.endpoint.takes r.method = true)
      (hvalues : route.values = .ok values) (hreads : route.endpoint.readsBody = true)
      (hlong : limit < r.body.length) : AnswersAlone limit r route 413
  | malformed {values : List String} (htakes : route.endpoint.takes r.method = true)
      (hvalues : route.values = .ok values) (hcancels : route.endpoint = .holdCancellation)
      (hfits : r.body.length ≤ limit) (hbody : cancellation? r.body = none) :
      AnswersAlone limit r route 400
  | fault {externalId holdId : String} {request : Hold.Request} {f : Hold.Fault}
      (htakes : route.endpoint.takes r.method = true)
      (hvalues : route.values = .ok [externalId, holdId])
      (hcancels : route.endpoint = .holdCancellation) (hfits : r.body.length ≤ limit)
      (hbody : cancellation? r.body = some request)
      (hfault : request.validate holdId = .error f) : AnswersAlone limit r route 422
  | blank {externalId : String} {others : List String}
      (htakes : route.endpoint.takes r.method = true)
      (hvalues : route.values = .ok (externalId :: others))
      (hfits : route.endpoint.readsBody = true → r.body.length ≤ limit)
      (hsound : route.endpoint.Sound r others)
      (hblank : Text.isBlank externalId = true) : AnswersAlone limit r route 422

namespace Route

/-- The values of a route are as many as its parameters. -/
theorem length_values {route : Route} {values : List String} (h : route.values = .ok values) :
    values.length = route.parameters.length := by
  unfold Route.values at h
  generalize route.parameters = parameters at h ⊢
  induction parameters generalizing values with
  | nil =>
      cases h
      rfl
  | cons p parameters ih =>
      rw [List.mapM_cons] at h
      cases hp : p.value? with
      | none =>
          rw [hp] at h
          cases h
      | some v =>
          rw [hp] at h
          dsimp only [bind, Except.bind] at h
          split at h
          · cases h
          · rename_i rest hrest
            cases h
            exact congrArg Nat.succ (ih hrest)

/-- No endpoint takes the method by which permissions are asked for. -/
theorem AnswersAlone.eq_of_preflight {route : Route} {limit status : Nat} {r : Request}
    (h : route.AnswersAlone limit r status) (hmethod : r.method = "OPTIONS") : status = 200 := by
  have hnot : route.endpoint.takes r.method = false := by
    rw [hmethod]
    cases route.endpoint <;> rfl
  have hcontra : ∀ {p : Prop}, route.endpoint.takes r.method = true → p := by
    intro p htakes
    rw [hnot] at htakes
    cases htakes
  cases h with
  | preflight => rfl
  | method hother => exact absurd hmethod hother
  | parameter htakes => exact hcontra htakes
  | tooLarge htakes => exact hcontra htakes
  | malformed htakes => exact hcontra htakes
  | fault htakes => exact hcontra htakes
  | blank htakes => exact hcontra htakes

section

variable {route : Route} {values : List String} (r : Request) (id : String)

/-- An act on something of a patron has two parameters, and asks for one thing. -/
theorem plan_of_ofAct? {raw object : List Char} {kind act : String}
    (h : ofAct? raw kind act object = some route) (hvalues : route.values = .ok values) :
    ∃ ops, route.endpoint.Plan r id values ops := by
  have hlength := length_values hvalues
  have hpair : route.parameters.length = 2 := by
    unfold ofAct? at h
    split at h <;> cases h <;> rfl
  obtain ⟨externalId, other, rfl⟩ := List.length_eq_two.mp (hlength.trans hpair)
  unfold ofAct? at h
  split at h
  · cases h
    exact ⟨_, .itemRenewal externalId other⟩
  · cases h
    exact ⟨_, .itemHold externalId other⟩
  · cases h
    exact ⟨_, .instanceHold externalId other⟩
  · cases h
    exact ⟨_, .holdCancellation externalId other unsubmitted⟩
  · cases h

/-- There is a plan for every route that is not public. -/
theorem plan_of_ofPath? {path : String} (h : ofPath? path = some route)
    (hpatron : route.endpoint.isPublic = false) (hvalues : route.values = .ok values) :
    ∃ ops, route.endpoint.Plan r id values ops := by
  unfold ofPath? at h
  split at h
  · split at h
    · cases h
      cases hpatron
    · cases h
      cases hpatron
    · cases h
  · split at h
    · cases h
      obtain ⟨externalId, rfl⟩ := List.length_eq_one_iff.mp (length_values hvalues)
      exact ⟨_, .account externalId⟩
    · cases h
  · split at h
    · exact plan_of_ofAct? r id h hvalues
    · cases h
  · cases h

end

/-- What the gateway does not answer alone has passed everything that it is checked for. -/
theorem exists_of_not_answersAlone {route : Route} {limit : Nat} {r : Request}
    (hplanned : ∀ values, route.values = .ok values →
      ∃ id ops, route.endpoint.Plan r id values ops)
    (h : ∀ status, ¬ route.AnswersAlone limit r status) :
    r.method ≠ "OPTIONS" ∧ route.endpoint.takes r.method = true ∧
    (route.endpoint.readsBody = true → r.body.length ≤ limit) ∧
    ∃ externalId others, route.values = .ok (externalId :: others) ∧
      route.endpoint.Sound r others ∧ Text.isBlank externalId ≠ true := by
  have hmethod : r.method ≠ "OPTIONS" := fun hoptions => h 200 (.preflight hoptions)
  have htakes : route.endpoint.takes r.method = true :=
    Bool.of_not_eq_false fun hnot => h 405 (.method hmethod hnot)
  cases hvalues : route.values with
  | error p => exact absurd (.parameter htakes hvalues) (h 400)
  | ok values =>
      have hfits : route.endpoint.readsBody = true → r.body.length ≤ limit := fun hreads =>
        Nat.le_of_not_lt fun hlong => h 413 (.tooLarge htakes hvalues hreads hlong)
      obtain ⟨externalId, others, rfl⟩ : ∃ externalId others, values = externalId :: others := by
        obtain ⟨id, ops, hplan⟩ := hplanned values hvalues
        exact hplan.exists_cons
      have hsound : route.endpoint.Sound r others := by
        rintro hcancels holdId rfl
        have hshort := hfits (by rw [hcancels]; rfl)
        cases hbody : cancellation? r.body with
        | none => exact absurd (.malformed htakes hvalues hcancels hshort hbody) (h 400)
        | some request =>
            cases hchecked : request.validate holdId with
            | error f =>
                exact absurd (.fault htakes hvalues hcancels hshort hbody hchecked) (h 422)
            | ok _ => exact ⟨request, rfl, hchecked⟩
      exact ⟨hmethod, htakes, hfits, externalId, others, rfl, hsound, fun hblank =>
        h 422 (.blank htakes hvalues hfits hsound hblank)⟩

end Route

/-! ## What surrounds an answer -/

theorem values_append_of_ne {hs gs : Headers} {name : String} (h : ∀ p ∈ gs, p.1 ≠ name) :
    Headers.values (hs ++ gs) name = Headers.values hs name := by
  rw [Headers.values_append, Headers.values_eq_nil h, List.append_nil]

/-- A response is given to the client as another one: with the same status and content type, and
with the same body, unless the client asks for the header fields alone. -/
structure Wraps (method : String) (inner outer : Response) : Prop where
  status_eq : outer.status = inner.status
  contentType_eq : Headers.values outer.headers "content-type" =
    Headers.values inner.headers "content-type"
  body_eq : method ≠ "HEAD" → outer.body = inner.body

namespace Wraps

variable {method : String} {inner outer : Response}

theorem refl (method : String) (response : Response) : Wraps method response response :=
  ⟨rfl, rfl, fun _ => rfl⟩

theorem trans {middle : Response} (h : Wraps method inner middle)
    (h' : Wraps method middle outer) : Wraps method inner outer where
  status_eq := h'.status_eq.trans h.status_eq
  contentType_eq := h'.contentType_eq.trans h.contentType_eq
  body_eq hmethod := (h'.body_eq hmethod).trans (h.body_eq hmethod)

theorem shared (method : String) (response : Response) :
    Wraps method response (shared response) where
  status_eq := rfl
  contentType_eq := values_append_of_ne (by decide)
  body_eq _ := rfl

theorem named (method id : String) (response : Response) :
    Wraps method response
      { response with headers := response.headers.set requestIdHeader id } where
  status_eq := rfl
  contentType_eq := by
    unfold Headers.set
    rw [values_append_of_ne (by simp [requestIdHeader]), Headers.values_remove (by decide)]
  body_eq _ := rfl

theorem withAllowed (e : Endpoint) (method : String) (response : Response) :
    Wraps method response (withAllowed e method response) := by
  unfold Gateway.withAllowed
  split
  · exact refl method response
  · exact ⟨rfl, values_append_of_ne (by simp), fun _ => rfl⟩

theorem framed (method : String) (response : Response) :
    Wraps method response (framed method response) where
  status_eq := rfl
  contentType_eq := values_append_of_ne (by simp)
  body_eq hmethod := by
    unfold Gateway.framed
    simp [hmethod]

/-- What is passed on is so under a wrapping, too. -/
theorem relays {a : Backend.Answer} (h : Wraps method inner outer)
    (hrelays : Relays method a inner) : Relays method a outer where
  status_eq := h.status_eq.trans hrelays.status_eq
  contentType_eq := h.contentType_eq.trans hrelays.contentType_eq
  body_eq hmethod := (h.body_eq hmethod).trans (hrelays.body_eq hmethod)

/-- A plan is followed under a wrapping, too. -/
theorem followsPlan {c : Backend.Client} {tenant id : String} {n : Network}
    {joined : Hold.Record → Hold.Payload → Prop} {plan : List Operation}
    {calls : List Http.Outgoing} (h : Wraps method inner outer)
    (hplan : FollowsPlan c tenant method n id joined plan calls inner) :
    FollowsPlan c tenant method n id joined plan calls outer where
  calls_prefix := hplan.calls_prefix
  fails i op result e hcame hfails := by
    obtain ⟨hlast, hstatus, hrelays⟩ := hplan.fails i op result e hcame hfails
    exact ⟨hlast, h.status_eq.trans hstatus,
      fun holdId a hop he => h.relays (hrelays holdId a hop he)⟩
  answers i op a hcame hlast := h.relays (hplan.answers i op a hcame hlast)
  breaks_off op hop hall := by
    rw [h.status_eq]
    exact hplan.breaks_off op hop hall
  found := hplan.found
  submitted := hplan.submitted

end Wraps

namespace State

/-! ## At an endpoint -/

/-- What is submitted to cancel a stored hold joins the hold with what the body of the request
asks for. -/
def Joins (s : State) (r : Request) (hold : Hold.Record) (payload : Hold.Payload) : Prop :=
  ∃ request moment, cancellation? r.body = some request ∧
    payload = Hold.Payload.merge hold request (s.calendar.dateAt moment)

section

variable {s : State} {n : Network} {tenant : String} {r : Request} {e : Endpoint}
  {externalId : String} {others : List String} {id : String} {ops : List Operation}

theorem passOn_of_blank {make : String → Forward} (hblank : Text.isBlank externalId = true) :
    (s.passOn n tenant externalId make).2.2 = n ∧
      (responseOf (s.passOn n tenant externalId make).1).status = 422 := by
  obtain ⟨slot, hresolve⟩ := resolve_of_blank hblank
  rw [passOn_of_error (by rw [hresolve]), hresolve]
  exact ⟨rfl, rfl⟩

theorem cancelHold_of_blank {holdId : String} {request : Hold.Request}
    (hvalid : request.validate holdId = .ok ()) (hblank : Text.isBlank externalId = true) :
    (s.cancelHold n tenant externalId holdId request).2.2 = n ∧
      (responseOf (s.cancelHold n tenant externalId holdId request).1).status = 422 := by
  obtain ⟨slot, hresolve⟩ := resolve_of_blank hblank
  rw [cancelHold_of_error hvalid (by rw [hresolve]), hresolve]
  exact ⟨rfl, rfl⟩

/-- A cancellation whose body can be read is one of a hold. -/
theorem serveTenant_of_cancellation {holdId : String} {request : Hold.Request}
    (h : cancellation? r.body = some request) :
    s.serveTenant n tenant r .holdCancellation [externalId, holdId] =
      s.cancelHold n tenant externalId holdId request := by
  unfold serveTenant
  rw [cancellationOf_of_some h]

/-- No operation stands twice in the plan of a request. -/
theorem nodup_lookups_append (s : State) (n : Network) (tenant : String)
    (h : e.Plan r id (externalId :: others) ops) :
    (s.lookups n tenant externalId ++ ops).Nodup := by
  unfold lookups
  cases h <;> split <;> simp

/-- A patron without a name is refused at every endpoint. -/
theorem serveTenant_of_blank (hplan : e.Plan r id (externalId :: others) ops)
    (hsound : e.Sound r others) (hblank : Text.isBlank externalId = true) :
    (s.serveTenant n tenant r e (externalId :: others)).2.2 = n ∧
      (responseOf (s.serveTenant n tenant r e (externalId :: others)).1).status = 422 := by
  cases hplan with
  | account => exact passOn_of_blank hblank
  | itemRenewal => exact passOn_of_blank hblank
  | itemHold => exact passOn_of_blank hblank
  | instanceHold => exact passOn_of_blank hblank
  | holdCancellation _ holdId =>
      obtain ⟨request, hrequest, hvalid⟩ := hsound rfl holdId rfl
      rw [serveTenant_of_cancellation hrequest]
      exact cancelHold_of_blank hvalid hblank

/-- At every endpoint, a request of a patron takes its course: the lookup of the patron, where
that is needed, and what the endpoint asks for. -/
theorem serveTenant_follows (method : String) (hplan : e.Plan r id (externalId :: others) ops)
    (hsound : e.Sound r others) (hblank : Text.isBlank externalId ≠ true)
    (hdirect : n.Direct s.services.client.timeout
      (s.serveTenant n tenant r e (externalId :: others)).2.2) :
    ∃ id ops, e.Plan r id (externalId :: others) ops ∧
      (∀ id', s.known? n tenant externalId = some id' → id = id') ∧
      FollowsPlan s.services.client tenant method n id (s.Joins r)
        (s.lookups n tenant externalId ++ ops)
        ((s.serveTenant n tenant r e (externalId :: others)).2.2.arrivedSince n)
        (responseOf (s.serveTenant n tenant r e (externalId :: others)).1) := by
  cases hplan with
  | account =>
      obtain ⟨id, _, rfl, hknown, hfollows⟩ := passOn_follows hblank hdirect
      exact ⟨id, _, .account externalId, hknown, hfollows⟩
  | itemRenewal _ item =>
      obtain ⟨id, _, rfl, hknown, hfollows⟩ := passOn_follows hblank hdirect
      exact ⟨id, _, .itemRenewal externalId item, hknown, hfollows⟩
  | itemHold _ item =>
      obtain ⟨id, _, rfl, hknown, hfollows⟩ := passOn_follows hblank hdirect
      exact ⟨id, _, .itemHold externalId item, hknown, hfollows⟩
  | instanceHold _ instanceId =>
      obtain ⟨id, _, rfl, hknown, hfollows⟩ := passOn_follows hblank hdirect
      exact ⟨id, _, .instanceHold externalId instanceId, hknown, hfollows⟩
  | holdCancellation _ holdId =>
      obtain ⟨request, hrequest, hvalid⟩ := hsound rfl holdId rfl
      rw [serveTenant_of_cancellation hrequest] at hdirect ⊢
      have hjoins : ∀ hold moment,
          s.Joins r hold (Hold.Payload.merge hold request (s.calendar.dateAt moment)) :=
        fun hold moment => ⟨request, moment, hrequest, rfl⟩
      obtain ⟨id, _, ⟨payload, rfl⟩, hknown, hfollows⟩ :=
        cancelHold_follows hvalid hjoins hblank hdirect
      exact ⟨id, _, .holdCancellation externalId holdId payload, hknown, hfollows⟩

end

/-! ## On a route -/

section

variable {s : State} {n : Network} {tenant : String} {r : Request} {route : Route}
  {values : List String}

/-- A request that comes to its endpoint has the outcome that it has there. -/
theorem serveRoute_of_fits (htakes : route.endpoint.takes r.method = true)
    (hvalues : route.values = .ok values)
    (hfits : route.endpoint.readsBody = true → r.body.length ≤ s.services.bodyLimit) :
    let served := s.serveTenant n tenant r route.endpoint values
    (s.serveRoute n tenant r route).1 = responseOf served.1 ∧
      (s.serveRoute n tenant r route).2 = served.2 := by
  have hshort : ¬ (route.endpoint.readsBody &&
      decide (s.services.bodyLimit < r.body.length)) = true := by
    rw [Bool.and_eq_true, decide_eq_true_iff]
    rintro ⟨hreads, hlong⟩
    exact Nat.not_lt.mpr (hfits hreads) hlong
  unfold serveRoute
  rw [if_neg (by simp [htakes]), hvalues]
  dsimp only
  rw [if_neg hshort]
  generalize s.serveTenant n tenant r route.endpoint values = served
  obtain ⟨result, s', n'⟩ := served
  cases result <;> exact ⟨rfl, rfl⟩

/-- Where the gateway answers alone, it does so with the status that it is said to. -/
theorem serveRoute_of_answersAlone {status : Nat} (hmethod : r.method ≠ "OPTIONS")
    (hplanned : ∀ values, route.values = .ok values →
      ∃ id ops, route.endpoint.Plan r id values ops)
    (h : route.AnswersAlone s.services.bodyLimit r status) :
    (s.serveRoute n tenant r route).2.2 = n ∧
      (s.serveRoute n tenant r route).1.status = status := by
  cases h with
  | preflight hoptions => exact absurd hoptions hmethod
  | method _ htakes =>
      unfold serveRoute
      rw [if_pos (by simp [htakes])]
      exact ⟨rfl, rfl⟩
  | parameter htakes hvalues =>
      unfold serveRoute
      rw [if_neg (by simp [htakes]), hvalues]
      exact ⟨rfl, rfl⟩
  | tooLarge htakes hvalues hreads hlong =>
      unfold serveRoute
      rw [if_neg (by simp [htakes]), hvalues]
      dsimp only
      rw [if_pos (by simp [hreads, hlong])]
      exact ⟨rfl, rfl⟩
  | malformed htakes hvalues hcancels hfits hbody =>
      obtain ⟨hresponse, hafter⟩ := serveRoute_of_fits (s := s) (n := n) htakes hvalues
        fun _ => hfits
      obtain ⟨id, ops, hplan⟩ := hplanned _ hvalues
      rw [hresponse, hafter, hcancels]
      rw [hcancels] at hplan
      obtain ⟨message, hrefused⟩ := cancellationOf_of_none hbody
      cases hplan with
      | holdCancellation =>
          unfold serveTenant
          rw [hrefused]
          exact ⟨rfl, Refusal.status_response _⟩
  | fault htakes hvalues hcancels hfits hbody hfault =>
      obtain ⟨hresponse, hafter⟩ := serveRoute_of_fits (s := s) (n := n) htakes hvalues
        fun _ => hfits
      rw [hresponse, hafter, hcancels, serveTenant_of_cancellation hbody,
        cancelHold_of_fault hfault]
      exact ⟨rfl, Refusal.status_response _⟩
  | blank htakes hvalues hfits hsound hblank =>
      obtain ⟨hresponse, hafter⟩ := serveRoute_of_fits (s := s) (n := n) htakes hvalues hfits
      obtain ⟨id, ops, hplan⟩ := hplanned _ hvalues
      rw [hresponse, hafter]
      exact serveTenant_of_blank hplan hsound hblank

end

/-! ## From the gate on -/

section

variable {s : State} {n : Network} {r : Request} {route : Route} {key : Access.ApiKey}

/-- A request that is let in on the route of a patron is served there. -/
theorem serve_of_admitted (freshId : String)
    (hkey : (s.authenticate n r).1 = .ok key)
    (hroute : Route.ofPath? r.target.path = some route)
    (hpatron : route.endpoint.isPublic = false) (hmethod : r.method ≠ "OPTIONS") :
    let inner := (s.authenticate n r).2.1.serveRoute (s.authenticate n r).2.2 key.tenant r route
    (s.serve n freshId r).2.2 = inner.2.2 ∧ Wraps r.method inner.1 (s.serve n freshId r).1 := by
  have hprivate : s.serveOn n r (some route) =
      (s.authenticate n r).2.1.serveRoute (s.authenticate n r).2.2 key.tenant r route := by
    unfold serveOn
    rw [Option.filter_some_neg (by simp [hpatron])]
    dsimp only
    unfold servePrivate
    generalize s.authenticate n r = gate at hkey ⊢
    obtain ⟨result, s', n'⟩ := gate
    obtain rfl : result = .ok key := hkey
    rfl
  dsimp only
  unfold serve
  dsimp only
  rw [if_neg (by simpa using hmethod), hroute, hprivate]
  refine ⟨rfl, ?_⟩
  exact ((Wraps.shared _ _).trans (Wraps.named _ _ _)).trans
    ((Wraps.withAllowed _ _ _).trans (Wraps.framed _ _))

/-- Nothing happens on the network where only permissions are asked for. -/
theorem arrivedSince_serve_of_preflight (freshId : String) (hmethod : r.method = "OPTIONS") :
    (s.serve n freshId r).2.2.arrivedSince (s.authenticate n r).2.2 = [] := by
  have hnetwork : (s.serve n freshId r).2.2 = n := by
    unfold serve
    dsimp only
    rw [if_pos (by simp [hmethod])]
    cases Route.ofPath? r.target.path <;> rfl
  obtain ⟨fetched, hfetched, -⟩ := s.arrived_authenticate n r
  rw [hnetwork]
  unfold Network.arrivedSince
  rw [hfetched, List.drop_eq_nil_iff, List.length_append]
  exact Nat.le_add_right _ _

theorem status_serve_of_preflight (freshId : String) (hmethod : r.method = "OPTIONS") :
    (s.serve n freshId r).1.status = 200 := by
  unfold serve
  dsimp only
  rw [if_pos (by simp [hmethod])]
  cases Route.ofPath? r.target.path with
  | none =>
      dsimp only
      split <;> rfl
  | some route =>
      exact ((Wraps.withAllowed route.endpoint r.method _).trans (Wraps.framed _ _)).status_eq

/-- A request that is let in on the route of a patron is answered by the gateway alone, or its
plan is followed: the lookup of the patron, unless the cache knows the patron, and then what the
route asks for.  This holds in every state of the gateway and on every network, provided that no
answer of the backend is a redirect that is followed. -/
theorem serve_follows_plan (freshId : String) (hkey : (s.authenticate n r).1 = .ok key)
    (hroute : Route.ofPath? r.target.path = some route)
    (hpatron : route.endpoint.isPublic = false)
    (hdirect : (s.authenticate n r).2.2.Direct s.services.client.timeout
      (s.serve n freshId r).2.2) :
    let held := (s.authenticate n r).2.1
    let m := (s.authenticate n r).2.2
    let response := (s.serve n freshId r).1
    let calls := (s.serve n freshId r).2.2.arrivedSince m
    (∀ status, route.AnswersAlone held.services.bodyLimit r status →
      calls = [] ∧ response.status = status) ∧
    ((∀ status, ¬ route.AnswersAlone held.services.bodyLimit r status) →
      ∃ externalId others id ops,
        route.values = .ok (externalId :: others) ∧
        route.endpoint.Plan r id (externalId :: others) ops ∧
        (∀ id', held.known? m key.tenant externalId = some id' → id = id') ∧
        (held.lookups m key.tenant externalId ++ ops).Nodup ∧
        FollowsPlan held.services.client key.tenant r.method m id (held.Joins r)
          (held.lookups m key.tenant externalId ++ ops) calls response) := by
  intro held m response calls
  have hplanned : ∀ values, route.values = .ok values →
      ∃ id ops, route.endpoint.Plan r id values ops := fun values hvalues =>
    ⟨"", Route.plan_of_ofPath? r "" hroute hpatron hvalues⟩
  constructor
  · intro status halone
    by_cases hmethod : r.method = "OPTIONS"
    · rw [halone.eq_of_preflight hmethod]
      exact ⟨arrivedSince_serve_of_preflight freshId hmethod,
        status_serve_of_preflight freshId hmethod⟩
    · obtain ⟨hnetwork, hwraps⟩ := serve_of_admitted freshId hkey hroute hpatron hmethod
      obtain ⟨hsame, hstatus⟩ :=
        @serveRoute_of_answersAlone held m key.tenant r route status hmethod hplanned halone
      refine ⟨?_, hwraps.status_eq.trans hstatus⟩
      change (s.serve n freshId r).2.2.arrivedSince m = []
      rw [hnetwork, hsame]
      exact Network.arrivedSince_self m
  · intro hnot
    obtain ⟨hmethod, htakes, hfits, externalId, others, hvalues, hsound, hblank⟩ :=
      Route.exists_of_not_answersAlone hplanned hnot
    obtain ⟨hnetwork, hwraps⟩ := serve_of_admitted freshId hkey hroute hpatron hmethod
    obtain ⟨hresponse, hafter⟩ :=
      @serveRoute_of_fits held m key.tenant r route _ htakes hvalues hfits
    have hserved : (s.serve n freshId r).2.2 =
        (held.serveTenant m key.tenant r route.endpoint (externalId :: others)).2.2 :=
      hnetwork.trans (congrArg Prod.snd hafter)
    rw [← (s.authenticate_spec n r).1, hserved] at hdirect
    obtain ⟨_, _, hplan⟩ := hplanned _ hvalues
    obtain ⟨id, ops, hplan, hknown, hfollows⟩ :=
      serveTenant_follows r.method hplan hsound hblank hdirect
    refine ⟨externalId, others, id, ops, hvalues, hplan, hknown,
      nodup_lookups_append _ _ _ hplan, ?_⟩
    rw [← hresponse, ← hserved] at hfollows
    exact hwraps.followsPlan hfollows

end

end State

namespace World

/-- A gateway before its first request, and a network with some answers. -/
def scriptedStart (services : Services) (script : List Http.Reaction) : World where
  state := (guarded services).state
  network := ⟨fun _ => true, script, [], 0⟩

/-- A request to cancel a hold of the patron `1`. -/
def cancelRequest : Request where
  method := "POST"
  target := ⟨"/patron/account/1/hold/11111111-1111-1111-1111-111111111111/cancel",
    some "apikey=eyJzIjoieCIsInQiOiJkaWt1IiwidSI6InUifQ"⟩
  headers := []
  body := Text.Utf8.encode ("\x7b\"holdId\":\"11111111-1111-1111-1111-111111111111\"," ++
    "\"cancellationReasonId\":\"22222222-2222-2222-2222-222222222222\"," ++
    "\"canceledByUserId\":\"33333333-3333-3333-3333-333333333333\"\x7d")

/-- The answers to the lookup of the patron, to the reading of the hold and to the submission. -/
def cancelScript : List Http.Reaction :=
  ["\x7b\"users\":[\x7b\"id\":\"u\"\x7d]\x7d",
    "\x7b\"id\":\"h\",\"requestDate\":\"2026-01-01\"\x7d", "\x7b\x7d"].map jsonReply

/-- None of these answers is a redirect. -/
theorem isRedirect_of_cancelScript {r : Http.Reply} (h : .reply r ∈ cancelScript) :
    Http.isRedirect r.status = false := by
  obtain ⟨text, -, hreply⟩ := List.mem_map.mp h
  unfold jsonReply at hreply
  cases hreply
  rfl

/-- A cancellation that goes through makes the three requests of its plan arrive. -/
theorem serve_follows_plan_cancellation : ∃ services,
    Services.ofConfig .blank { guardedConfig with auth := ⟨false, none⟩ } = .ok services ∧
    let w := scriptedStart services cancelScript
    let gate := w.state.authenticate w.network cancelRequest
    let served := w.state.serve w.network "1" cancelRequest
    let calls := served.2.2.arrivedSince gate.2.2
    calls.length = 3 ∧ served.1.status = 200 ∧
      ∃ id plan, plan.Nodup ∧
        FollowsPlan gate.2.1.services.client "diku" "POST" gate.2.2 id
          (gate.2.1.Joins cancelRequest) plan calls served.1 := by
  have hrun : ∃ services,
      Services.ofConfig .blank { guardedConfig with auth := ⟨false, none⟩ } = .ok services ∧
      let w := scriptedStart services cancelScript
      let gate := w.state.authenticate w.network cancelRequest
      let served := w.state.serve w.network "1" cancelRequest
      (gate.1.toOption.map (·.tenant), gate.2.2.reactions == cancelScript,
        (served.2.2.arrivedSince gate.2.2).length, served.1.status) =
        (some "diku", true, 3, 200) := by
    apply Token.ok_of_toOption
    decide +kernel
  have hpath : (Route.ofPath? cancelRequest.target.path).map (·.endpoint) =
      some .holdCancellation := by decide +kernel
  obtain ⟨route, hroute, hendpoint⟩ := Option.map_eq_some_iff.mp hpath
  obtain ⟨services, hservices, hfacts⟩ := hrun
  refine ⟨services, hservices, ?_⟩
  generalize scriptedStart services cancelScript = w at hfacts ⊢
  have hserve := fun key => @State.serve_follows_plan w.state w.network cancelRequest route key "1"
  -- nothing is to be computed any more
  dsimp only at hserve hfacts ⊢
  generalize w.state.authenticate w.network cancelRequest = gate at hserve hfacts ⊢
  generalize w.state.serve w.network "1" cancelRequest = served at hserve hfacts ⊢
  simp only [Prod.mk.injEq] at hfacts
  obtain ⟨htenant, hscript, hcalls, hstatus⟩ := hfacts
  obtain ⟨key, hkey, hdiku⟩ := Token.ok_of_toOption htenant
  have hdirect : gate.2.2.Direct w.state.services.client.timeout served.2.2 := by
    refine Network.Direct.of_reactions fun reply hreply => ?_
    rw [beq_iff_eq.mp hscript] at hreply
    exact isRedirect_of_cancelScript hreply
  obtain ⟨halone, hfollows⟩ := hserve key hkey hroute (by rw [hendpoint]; rfl) hdirect
  have hasked : ∀ status,
      ¬ route.AnswersAlone gate.2.1.services.bodyLimit cancelRequest status := by
    intro status h
    rw [(halone status h).1] at hcalls
    cases hcalls
  obtain ⟨_, _, id, _, -, -, -, hnodup, hplan⟩ := hfollows hasked
  rw [hdiku] at hnodup hplan
  exact ⟨hcalls, hstatus, id, _, hnodup, hplan⟩

end World

end Gateway
end PatronGateway
