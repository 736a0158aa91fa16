import PatronGateway.Proofs.Gateway.Gate
import PatronGateway.Proofs.Gateway.Plan
import PatronGateway.Proofs.Hold.Protocol

/-!
# What a patron's request asks of the backend

Behind the gate, a request looks its patron up unless the cache knows the patron, and then asks
for what it has come for: one request that is passed on, or the reading of a hold and the
submission of its cancellation.

* `State.lookups` is the lookup, where it is needed; `State.follows_of_resolve` puts it before
  the plan of what follows.
* `State.passOn_follows` and `State.cancelHold_follows` are the plans of the two kinds of
  requests.
-/

namespace PatronGateway
namespace Gateway

open Backend (Answer Client Forward)
open Backend.Client (Operation foundHold foundUser)
open Cache (IdentitySlot)
open Http (Headers Network Outgoing Request Response)
open Patron (IdentityState RequestError)

/-- The response to a request, be it served or refused. -/
def responseOf : Except Refusal Response → Response
  | .error e => e.response
  | .ok response => response

/-- The response to what the backend has been asked for in the end. -/
def answered : Except RequestError Answer → Response
  | .error e => (Refusal.patron e).response
  | .ok a => relay a

/-- Some payload, for the plan of a cancellation that never comes to its submission. -/
def unsubmitted : Hold.Payload :=
  ⟨"", none, "", "", "", none, ⟨1970, 1, 1, 0, 0, 0, 0, 0⟩⟩

namespace State

/-- The internal id of a patron that the cache knows at the moment, if it does. -/
def known? (s : State) (n : Network) (tenant externalId : String) : Option String :=
  match (IdentitySlot.get s.identity n.now tenant externalId).1 with
  | .ok (.hit id) => some id
  | _ => none

/-- The lookup of a patron that the cache does not know. -/
def lookups (s : State) (n : Network) (tenant externalId : String) : List Operation :=
  match s.known? n tenant externalId with
  | some _ => []
  | none => [.lookup externalId]

section Resolving

variable {s : State} {n : Network} {tenant externalId : String}

theorem known?_eq_some_iff {id : String} :
    s.known? n tenant externalId = some id ↔
      (IdentitySlot.get s.identity n.now tenant externalId).1 = .ok (.hit id) := by
  unfold known?
  split
  · rename_i id' h
    simp [h]
  · rename_i hother
    exact iff_of_false (by simp) fun h => hother id h

/-- Nobody is asked who a patron without a name is. -/
theorem resolve_of_blank (hblank : Text.isBlank externalId = true) :
    ∃ slot, s.resolve n tenant externalId =
      (.error (.invalid "external patron id is required"), { s with identity := slot }, n) := by
  unfold resolve
  rw [IdentityState.consult_of_blank hblank]
  exact ⟨_, rfl⟩

/-- A patron that the cache knows is not looked up. -/
theorem resolve_of_known {id : String} (hblank : Text.isBlank externalId ≠ true)
    (hknown : s.known? n tenant externalId = some id) :
    ∃ slot, s.resolve n tenant externalId = (.ok id, { s with identity := slot }, n) := by
  rw [known?_eq_some_iff] at hknown
  rcases IdentityState.consult_of_not_blank hblank ⟨s.identity, n.now⟩ tenant with
    ⟨id', hhit, hconsult⟩ | ⟨hmiss, -⟩
  · obtain rfl : id = id' := by
      have hsame := hknown.symm.trans hhit
      cases hsame
      rfl
    unfold resolve
    rw [hconsult]
    exact ⟨_, rfl⟩
  · exact absurd hknown (hmiss id)

/-- Any other patron is looked up. -/
theorem network_resolve_of_unknown (hblank : Text.isBlank externalId ≠ true)
    (hknown : s.known? n tenant externalId = none) :
    (s.resolve n tenant externalId).2.2 =
      (s.services.client.ask n tenant (.lookup externalId)).2 := by
  rcases IdentityState.consult_of_not_blank hblank ⟨s.identity, n.now⟩ tenant with
    ⟨id, hhit, -⟩ | ⟨-, hconsult⟩
  · rw [known?_eq_some_iff.mpr hhit] at hknown
    cases hknown
  · unfold resolve
    rw [hconsult]
    rfl

/-- What the lookup finds is settled on, unless time goes back meanwhile. -/
theorem result_resolve_of_unknown (hblank : Text.isBlank externalId ≠ true)
    (hknown : s.known? n tenant externalId = none)
    (hnow : n.now ≤ (s.services.client.ask n tenant (.lookup externalId)).2.now) :
    (s.resolve n tenant externalId).1 =
      ((s.services.client.ask n tenant (.lookup externalId)).1.bind foundUser).mapError
        (Patron.lookupError externalId) := by
  rcases IdentityState.consult_of_not_blank hblank ⟨s.identity, n.now⟩ tenant with
    ⟨id, hhit, -⟩ | ⟨hmiss, hconsult⟩
  · rw [known?_eq_some_iff.mpr hhit] at hknown
    cases hknown
  · unfold resolve
    rw [hconsult]
    dsimp only
    rw [Client.lookup_eq_ask]
    -- nobody has put anything into the cache since it was consulted
    refine IdentityState.settle_eq_mapError fun id hhit => absurd ?_ (hmiss id)
    have hlater : (IdentitySlot.get s.identity
        (s.services.client.ask n tenant (.lookup externalId)).2.now tenant externalId).1 =
        .ok (.hit id) := by
      rw [← hhit]
      exact (Cache.Slot.get_get s.identity n.now _ _ _).symm
    exact Cache.Slot.get_of_le hnow hlater (by simp)

theorem status_lookupError (externalId : String) (e : Backend.Error) :
    (Patron.lookupError externalId e).status = (Operation.lookup externalId).failureStatus e := by
  cases e <;> rfl

/-- The plan of a patron's request is what is asked once the patron is known, behind the lookup
of the patron where that is needed. -/
theorem follows_of_resolve {method : String} {m : Network} {response : Response}
    {joined : Hold.Record → Hold.Payload → Prop} {next : String → List Operation → Prop}
    (hblank : Text.isBlank externalId ≠ true)
    (hplan : ∀ id, ∃ ops, next id ops) (hne : ∀ id ops, next id ops → ops ≠ [])
    (hleads : (s.resolve n tenant externalId).2.2.Leads m)
    (hdirect : n.Direct s.services.client.timeout m)
    (hfails : ∀ e, (s.resolve n tenant externalId).1 = .error e →
      m = (s.resolve n tenant externalId).2.2 ∧ response.status = e.status)
    (hgoes : ∀ id, (s.resolve n tenant externalId).1 = .ok id →
      (s.resolve n tenant externalId).2.2.Direct s.services.client.timeout m →
      ∃ ops, next id ops ∧
        FollowsPlan s.services.client tenant method (s.resolve n tenant externalId).2.2 id joined
          ops (m.arrivedSince (s.resolve n tenant externalId).2.2) response) :
    ∃ id ops, next id ops ∧ (∀ id', s.known? n tenant externalId = some id' → id = id') ∧
      FollowsPlan s.services.client tenant method n id joined
        (s.lookups n tenant externalId ++ ops) (m.arrivedSince n) response := by
  cases hknown : s.known? n tenant externalId with
  | some id =>
      obtain ⟨slot, hresolve⟩ := resolve_of_known hblank hknown
      rw [hresolve] at hgoes
      obtain ⟨ops, hnext, hfollows⟩ := hgoes id rfl hdirect
      refine ⟨id, ops, hnext, fun id' hid' => Option.some.inj hid', ?_⟩
      unfold lookups
      rw [hknown]
      exact hfollows
  | none =>
      have hnetwork := network_resolve_of_unknown hblank hknown
      have hasked := s.services.client.ask_leads n tenant (.lookup externalId)
      rw [hnetwork] at hleads hfails hgoes
      obtain ⟨hfirst, hthen⟩ := hdirect.split hasked hleads
      rw [result_resolve_of_unknown hblank hknown (Client.now_le_ask hfirst)] at hfails hgoes
      unfold lookups
      rw [hknown]
      cases hresult : (s.services.client.ask n tenant (.lookup externalId)).1.bind foundUser with
      | error e =>
          -- the rest of the plan is never come to, so any id stands for the patron
          rw [hresult] at hfails
          obtain ⟨rfl, hstatus⟩ := hfails _ rfl
          obtain ⟨ops, hnext⟩ := hplan externalId
          refine ⟨externalId, ops, hnext, by simp, ?_⟩
          refine FollowsPlan.ask_failed hfirst ?_ (hne _ _ hnext)
            (hstatus.trans (status_lookupError externalId e)) (by simp)
          simp [Operation.failure?, hresult]
      | ok id =>
          rw [hresult] at hgoes
          obtain ⟨ops, hnext, hfollows⟩ := hgoes id rfl hthen
          refine ⟨id, ops, hnext, by simp, ?_⟩
          refine FollowsPlan.ask_onward hfirst hleads ?_ (hne _ _ hnext) ?_ (by simp) hfollows
          · simp [Operation.failure?, hresult]
          · intro externalId' id' a _ ha hid'
            rw [ha] at hresult
            exact Except.ok.inj (hresult.symm.trans hid')

theorem services_resolve (s : State) (n : Network) (tenant externalId : String) :
    (s.resolve n tenant externalId).2.1.services = s.services :=
  (s.resolve_actsFor n tenant externalId).services_eq

theorem calendar_resolve (s : State) (n : Network) (tenant externalId : String) :
    (s.resolve n tenant externalId).2.1.calendar = s.calendar := by
  unfold resolve
  obtain ⟨consultation, slot⟩ := Patron.consult s.identity n.now tenant externalId
  cases consultation <;> rfl

end Resolving

/-! ## Requests that are passed on -/

section PassingOn

variable {s : State} {n : Network} {tenant externalId : String} {make : String → Forward}

theorem status_ofBackend {c : Client} {request : Forward} {e : Backend.Error}
    (h : (c.ask n tenant (.forward request)).1 = .error e) :
    (RequestError.ofBackend e).status = (Operation.forward request).failureStatus e := by
  rcases Client.ask_error h with rfl | ⟨message, rfl⟩
  · rfl
  · rfl

theorem passOn_of_error {e : RequestError} (h : (s.resolve n tenant externalId).1 = .error e) :
    s.passOn n tenant externalId make =
      (.error (.patron e), (s.resolve n tenant externalId).2) := by
  unfold passOn
  generalize s.resolve n tenant externalId = run at h
  obtain ⟨result, s', n'⟩ := run
  obtain rfl : result = .error e := h
  rfl

/-- Once the patron is known, the request is sent, and its answer is the response. -/
theorem passOn_of_ok {id : String} (h : (s.resolve n tenant externalId).1 = .ok id) :
    let asked := s.services.client.ask (s.resolve n tenant externalId).2.2 tenant
      (.forward (make id))
    (s.passOn n tenant externalId make).2.2 = asked.2 ∧
      responseOf (s.passOn n tenant externalId make).1 =
        answered (asked.1.mapError RequestError.ofBackend) := by
  have hservices := s.services_resolve n tenant externalId
  unfold passOn
  generalize s.resolve n tenant externalId = run at h hservices ⊢
  obtain ⟨result, s', n'⟩ := run
  obtain rfl : result = .ok id := h
  dsimp only at hservices ⊢
  rw [hservices, Client.forward_eq_ask]
  generalize s.services.client.ask n' tenant (.forward (make id)) = asked
  obtain ⟨answer, n''⟩ := asked
  cases answer <;> exact ⟨rfl, rfl⟩

/-- A request is passed on after the lookup of its patron, where that is needed. -/
theorem passOn_follows {method : String} {joined : Hold.Record → Hold.Payload → Prop}
    (hblank : Text.isBlank externalId ≠ true)
    (hdirect : n.Direct s.services.client.timeout (s.passOn n tenant externalId make).2.2) :
    ∃ id ops, ops = [Operation.forward (make id)] ∧
      (∀ id', s.known? n tenant externalId = some id' → id = id') ∧
      FollowsPlan s.services.client tenant method n id joined
        (s.lookups n tenant externalId ++ ops)
        ((s.passOn n tenant externalId make).2.2.arrivedSince n)
        (responseOf (s.passOn n tenant externalId make).1) := by
  refine follows_of_resolve hblank (fun id => ⟨_, rfl⟩) (by simp) ?_ hdirect ?_ ?_
  · cases h : (s.resolve n tenant externalId).1 with
    | error e =>
        rw [passOn_of_error h]
        exact Network.Leads.refl _
    | ok id =>
        rw [(passOn_of_ok h).1]
        exact Client.ask_leads _ _ _ _
  · intro e h
    rw [passOn_of_error h]
    exact ⟨rfl, Refusal.status_response _⟩
  · intro id h hthen
    rw [(passOn_of_ok h).1] at hthen ⊢
    rw [(passOn_of_ok h).2]
    refine ⟨_, rfl, FollowsPlan.ask_last hthen (.forward (make id)) ?_ ?_⟩
    · intro e he
      rw [he]
      exact (Refusal.status_response _).trans (status_ofBackend he)
    · intro a ha
      rw [ha]
      exact relays_relay method a

end PassingOn

/-! ## Cancellations -/

section Cancelling

variable {s : State} {n : Network} {tenant externalId holdId : String} {request : Hold.Request}

theorem status_fetchError (holdId : String) (e : Backend.Error) :
    (Hold.fetchError holdId e).status = (Operation.fetchHold holdId).failureStatus e := by
  cases e <;> rfl

theorem status_submitError (patronId holdId : String) (payload : Hold.Payload)
    (e : Backend.Error) :
    (Hold.submitError e).status = (Operation.submit patronId holdId payload).failureStatus e := by
  cases e <;> rfl

theorem check_eq_ok {patronId : String} (hvalid : request.validate holdId = .ok ())
    (hblank : Text.isBlank patronId ≠ true) : Hold.check patronId holdId request = .ok () := by
  unfold Hold.check
  rw [if_neg hblank, hvalid]

/-- The submission of a cancellation is the last request of its plan. -/
theorem submit_follows {method id : String} {payload : Hold.Payload}
    {joined : Hold.Record → Hold.Payload → Prop}
    (hdirect : n.Direct s.services.client.timeout
      (s.services.client.ask n tenant (.submit id holdId payload)).2) :
    FollowsPlan s.services.client tenant method n id joined [.submit id holdId payload]
      ((s.services.client.ask n tenant (.submit id holdId payload)).2.arrivedSince n)
      (answered ((s.services.client.ask n tenant (.submit id holdId payload)).1.mapError
        Hold.submitError)) := by
  refine FollowsPlan.ask_last hdirect (.submit id holdId payload) ?_ ?_
  · intro e he
    rw [he]
    exact (Refusal.status_response _).trans (status_submitError id holdId payload e)
  · intro a ha
    rw [ha]
    exact relays_relay method a

/-- At the desk, nothing is submitted where the hold cannot be fetched. -/
theorem desk_cancel_of_lost {id : String} {e : Backend.Error}
    (hcheck : Hold.check id holdId request = .ok ())
    (hlost : (s.services.client.ask n tenant (.fetchHold holdId)).1.bind foundHold = .error e) :
    s.desk.cancel n tenant id holdId request =
      (.error (Hold.fetchError holdId e),
        (s.services.client.ask n tenant (.fetchHold holdId)).2) := by
  have hfetch : s.desk.fetch n tenant holdId =
      (.error e, (s.services.client.ask n tenant (.fetchHold holdId)).2) := by
    rw [← hlost]
    exact Client.fetchHold_eq_ask _ _ _ _
  exact Hold.Desk.cancel_of_fetch_error hcheck hfetch

/-- At the desk, the payload is made of the hold that has been fetched, and submitted. -/
theorem desk_cancel_of_found {id : String} {hold : Hold.Record}
    (hcheck : Hold.check id holdId request = .ok ())
    (hfound : (s.services.client.ask n tenant (.fetchHold holdId)).1.bind foundHold = .ok hold) :
    let fetched := (s.services.client.ask n tenant (.fetchHold holdId)).2
    let submitted := s.services.client.ask fetched tenant
      (.submit id holdId (Hold.Payload.merge hold request (s.calendar.dateAt fetched.now)))
    s.desk.cancel n tenant id holdId request =
      (submitted.1.mapError Hold.submitError, submitted.2) := by
  have hfetch : s.desk.fetch n tenant holdId =
      (.ok hold, (s.services.client.ask n tenant (.fetchHold holdId)).2) := by
    rw [← hfound]
    exact Client.fetchHold_eq_ask _ _ _ _
  exact Hold.Desk.cancel_of_fetch hcheck hfetch

/-- At the desk, the hold is fetched and its cancellation submitted. -/
theorem cancel_follows {method id : String} {joined : Hold.Record → Hold.Payload → Prop}
    (hvalid : request.validate holdId = .ok ())
    (hjoined : ∀ hold moment,
      joined hold (Hold.Payload.merge hold request (s.calendar.dateAt moment)))
    (hdirect : n.Direct s.services.client.timeout
      (s.desk.cancel n tenant id holdId request).2) :
    ∃ ops, (∃ payload, ops = [Operation.fetchHold holdId, .submit id holdId payload]) ∧
      FollowsPlan s.services.client tenant method n id joined ops
        ((s.desk.cancel n tenant id holdId request).2.arrivedSince n)
        (answered (s.desk.cancel n tenant id holdId request).1) := by
  by_cases hblank : Text.isBlank id = true
  · have hcheck : Hold.check id holdId request = .error (.invalid "patron id is required") := by
      unfold Hold.check
      rw [if_pos hblank]
    rw [Hold.Desk.cancel_of_refused hcheck, Network.arrivedSince_self]
    refine ⟨_, ⟨unsubmitted, rfl⟩, FollowsPlan.of_nil fun op _ =>
      Or.inr ⟨?_, hblank, holdId, unsubmitted, ?_⟩⟩
    · exact Refusal.status_response _
    · simp
  · have hcheck := check_eq_ok hvalid hblank
    cases hfound : (s.services.client.ask n tenant (.fetchHold holdId)).1.bind foundHold with
    | error e =>
        rw [desk_cancel_of_lost hcheck hfound] at hdirect ⊢
        refine ⟨_, ⟨unsubmitted, rfl⟩, FollowsPlan.ask_failed (e := e) hdirect ?_ (by simp) ?_ ?_⟩
        · simp [Operation.failure?, hfound]
        · exact (Refusal.status_response _).trans (status_fetchError holdId e)
        · rintro holdId' a - rfl
          exact relays_relay method a
    | ok hold =>
        rw [desk_cancel_of_found hcheck hfound] at hdirect ⊢
        dsimp only at hdirect ⊢
        generalize hpayload : Hold.Payload.merge hold request (s.calendar.dateAt
          (s.services.client.ask n tenant (.fetchHold holdId)).2.now) = payload at hdirect ⊢
        obtain ⟨hfirst, hthen⟩ := hdirect.split (Client.ask_leads _ _ _ (.fetchHold holdId))
          (Client.ask_leads _ _ _ _)
        refine ⟨_, ⟨payload, rfl⟩,
          FollowsPlan.ask_onward hfirst (Client.ask_leads _ _ _ _) ?_ (by simp) (by simp) ?_
            (submit_follows hthen)⟩
        · simp [Operation.failure?, hfound]
        · rintro _ _ _ a hold' payload' - ha hhold' hnext
          rw [ha] at hfound
          obtain rfl : hold' = hold := Except.ok.inj (hhold'.symm.trans hfound)
          cases hnext
          rw [← hpayload]
          exact hjoined _ _

/-- At the desk, a cancellation that passes the check begins with the reading of the hold. -/
theorem desk_cancel_leads_fetchHold {id : String}
    (hcheck : Hold.check id holdId request = .ok ()) :
    (s.services.client.ask n tenant (.fetchHold holdId)).2.Leads
      (s.desk.cancel n tenant id holdId request).2 := by
  cases hfound : (s.services.client.ask n tenant (.fetchHold holdId)).1.bind foundHold with
  | error e =>
      rw [desk_cancel_of_lost hcheck hfound]
      exact Network.Leads.refl _
  | ok hold =>
      rw [desk_cancel_of_found hcheck hfound]
      exact Client.ask_leads _ _ _ _

theorem desk_cancel_leads (s : State) (n : Network) (tenant id holdId : String)
    (request : Hold.Request) : n.Leads (s.desk.cancel n tenant id holdId request).2 := by
  cases hcheck : Hold.check id holdId request with
  | error e =>
      rw [Hold.Desk.cancel_of_refused hcheck]
      exact Network.Leads.refl n
  | ok checked =>
      exact (s.services.client.ask_leads n tenant (.fetchHold holdId)).trans
        (desk_cancel_leads_fetchHold hcheck)

/-- A cancellation that is not valid for the hold of the path is refused at once. -/
theorem cancelHold_of_fault {f : Hold.Fault} (h : request.validate holdId = .error f) :
    s.cancelHold n tenant externalId holdId request =
      (.error (.patron (.invalid f.message)), s, n) := by
  unfold cancelHold
  rw [h]

theorem cancelHold_of_error {e : RequestError} (hvalid : request.validate holdId = .ok ())
    (h : (s.resolve n tenant externalId).1 = .error e) :
    s.cancelHold n tenant externalId holdId request =
      (.error (.patron e), (s.resolve n tenant externalId).2) := by
  unfold cancelHold
  rw [hvalid]
  dsimp only
  generalize s.resolve n tenant externalId = run at h
  obtain ⟨result, s', n'⟩ := run
  obtain rfl : result = .error e := h
  rfl

theorem desk_resolve (s : State) (n : Network) (tenant externalId : String) :
    (s.resolve n tenant externalId).2.1.desk = s.desk := by
  unfold desk
  rw [services_resolve, calendar_resolve]

/-- Once the patron is known, the cancellation goes to the desk. -/
theorem cancelHold_of_ok {id : String} (hvalid : request.validate holdId = .ok ())
    (h : (s.resolve n tenant externalId).1 = .ok id) :
    let cancelled := s.desk.cancel (s.resolve n tenant externalId).2.2 tenant id holdId request
    (s.cancelHold n tenant externalId holdId request).2.2 = cancelled.2 ∧
      responseOf (s.cancelHold n tenant externalId holdId request).1 = answered cancelled.1 := by
  have hdesk := s.desk_resolve n tenant externalId
  unfold cancelHold
  rw [hvalid]
  dsimp only
  generalize s.resolve n tenant externalId = run at h hdesk ⊢
  obtain ⟨result, s', n'⟩ := run
  obtain rfl : result = .ok id := h
  dsimp only at hdesk ⊢
  rw [hdesk]
  generalize s.desk.cancel n' tenant id holdId request = cancelled
  obtain ⟨answer, n''⟩ := cancelled
  cases answer <;> exact ⟨rfl, rfl⟩

/-- A cancellation takes its course after the lookup of its patron, where that is needed. -/
theorem cancelHold_follows {method : String} {joined : Hold.Record → Hold.Payload → Prop}
    (hvalid : request.validate holdId = .ok ())
    (hjoined : ∀ hold moment,
      joined hold (Hold.Payload.merge hold request (s.calendar.dateAt moment)))
    (hblank : Text.isBlank externalId ≠ true)
    (hdirect : n.Direct s.services.client.timeout
      (s.cancelHold n tenant externalId holdId request).2.2) :
    ∃ id ops, (∃ payload, ops = [Operation.fetchHold holdId, .submit id holdId payload]) ∧
      (∀ id', s.known? n tenant externalId = some id' → id = id') ∧
      FollowsPlan s.services.client tenant method n id joined
        (s.lookups n tenant externalId ++ ops)
        ((s.cancelHold n tenant externalId holdId request).2.2.arrivedSince n)
        (responseOf (s.cancelHold n tenant externalId holdId request).1) := by
  have hsome : ∀ id ops, (∃ payload, ops = [Operation.fetchHold holdId,
      .submit id holdId payload]) → ops ≠ [] := by
    rintro id _ ⟨payload, rfl⟩
    exact List.cons_ne_nil _ _
  refine follows_of_resolve hblank (fun id => ⟨_, unsubmitted, rfl⟩) hsome ?_ hdirect ?_ ?_
  · cases h : (s.resolve n tenant externalId).1 with
    | error e =>
        rw [cancelHold_of_error hvalid h]
        exact Network.Leads.refl _
    | ok id =>
        rw [(cancelHold_of_ok hvalid h).1]
        exact desk_cancel_leads _ _ _ _ _ _
  · intro e h
    rw [cancelHold_of_error hvalid h]
    exact ⟨rfl, Refusal.status_response _⟩
  · intro id h hthen
    rw [(cancelHold_of_ok hvalid h).1] at hthen ⊢
    rw [(cancelHold_of_ok hvalid h).2]
    exact cancel_follows hvalid hjoined hthen

end Cancelling

end State
end Gateway
end PatronGateway
