import PatronGateway.Gateway.State
import PatronGateway.Proofs.Backend.Exchange
import PatronGateway.Proofs.Patron.Transparency

/-!
# Following a plan

What the gateway asks of the backend for one request is a short row of operations, a plan.  The
plan is followed from its beginning; an operation that fails ends it and settles what the client
is told, and so does the answer to its last operation.

* `FollowsPlan` is this, said of the requests that have arrived and of the response.
* `FollowsPlan.stops`, `FollowsPlan.last` and `FollowsPlan.onward` are the three ways in which
  the first operation of a plan can come out.
* `FollowsPlan.ask_failed`, `FollowsPlan.ask_last` and `FollowsPlan.ask_onward` say the same of
  what the client of the backend does, be it that a request cannot be sent at all.
-/

namespace PatronGateway
namespace Gateway

open Backend (Answer Client)
open Backend.Client (Exchange Operation foundHold foundUser)
open Http (Headers Network Outgoing Response)
open Patron (RequestError)

/-- A response passes an answer of the backend on: its status, its content type and its body,
unless the client asks for the header fields alone. -/
structure Relays (method : String) (a : Answer) (response : Response) : Prop where
  status_eq : response.status = RequestError.carriedStatus a.status
  contentType_eq : Headers.values response.headers "content-type" =
    (a.contentType.filter Http.isValue).toList
  body_eq : method ≠ "HEAD" → response.body = a.body

theorem relays_relay (method : String) (a : Answer) : Relays method a (relay a) where
  status_eq := rfl
  contentType_eq := by
    unfold relay
    cases a.contentType.filter Http.isValue <;> rfl
  body_eq _ := rfl

/-- The status of a refusal is the one of its response. -/
theorem Refusal.status_response (e : Refusal) : e.response.status = e.status := by
  unfold response
  split
  · rfl
  · dsimp only
    split <;> rfl

/-- The operation at some place of a plan has made its request arrive, and something has come
of it, on a network that begins with the given reactions. -/
def CameOf (c : Client) (n : Network) (plan : List Operation) (calls : List Outgoing) (i : Nat)
    (op : Operation) (result : Except Backend.Error Answer) : Prop :=
  plan[i]? = some op ∧ ∃ o, calls[i]? = some o ∧ c.answerTo o (n.reactionTo i) = result

/-- A plan is followed: the requests `calls` have arrived, and the client is given a response.
`id` is what the plan takes the patron for, and `joined` is what it makes of a stored hold. -/
structure FollowsPlan (c : Client) (tenant method : String) (n : Network) (id : String)
    (joined : Hold.Record → Hold.Payload → Prop) (plan : List Operation)
    (calls : List Outgoing) (response : Response) : Prop where
  /-- What has arrived are the requests of the plan, each of them once, from its beginning. -/
  calls_prefix : calls.map some <+: plan.map (Operation.wire? c tenant)
  /-- An operation that fails is the last one that is tried.  Its failure is what the client is
  told; if a hold cannot be read, the client may get the answer of the backend itself. -/
  fails : ∀ (i : Nat) (op : Operation) (result : Except Backend.Error Answer) (e : Backend.Error),
    CameOf c n plan calls i op result → op.failure? result = some e →
    calls.length = i + 1 ∧ response.status = op.failureStatus e ∧
      ∀ holdId a, op = .fetchHold holdId → e = .status a → Relays method a response
  /-- The answer to the last operation of the plan is passed on. -/
  answers : ∀ (i : Nat) (op : Operation) (a : Answer),
    CameOf c n plan calls i op (.ok a) → i + 1 = plan.length → Relays method a response
  /-- Where nothing has failed and yet not all has arrived, the next request of the plan cannot
  be sent, or the patron that has been found has no name to cancel a hold for. -/
  breaks_off : ∀ (op : Operation), plan[calls.length]? = some op →
    (∀ (i : Nat) (op : Operation) (result : Except Backend.Error Answer),
      CameOf c n plan calls i op result → op.failure? result = none) →
    (response.status = 502 ∧ ∀ o, op.wire? c tenant = some o → ¬ n.Takes o) ∨
    (response.status = 422 ∧ Text.isBlank id = true ∧
      ∃ holdId payload, .submit id holdId payload ∈ plan)
  /-- The patron of the plan is the one that the lookup finds. -/
  found : ∀ (i : Nat) (externalId id' : String) (a : Answer),
    CameOf c n plan calls i (.lookup externalId) (.ok a) → foundUser a = .ok id' → id = id'
  /-- What is submitted is made of the hold that has been read. -/
  submitted : ∀ (i : Nat) (holdId patronId holdId' : String) (a : Answer) (hold : Hold.Record)
    (payload : Hold.Payload), CameOf c n plan calls i (.fetchHold holdId) (.ok a) →
    foundHold a = .ok hold → plan[i + 1]? = some (.submit patronId holdId' payload) →
    joined hold payload

/-- An operation that any answer will do for. -/
inductive IsLast : Operation → Prop
  | submit (patronId holdId : String) (payload : Hold.Payload) :
      IsLast (.submit patronId holdId payload)
  | forward (request : Backend.Forward) : IsLast (.forward request)

theorem IsLast.failure?_ok {op : Operation} (h : IsLast op) (a : Answer) :
    op.failure? (.ok a) = none := by
  cases h <;> rfl

/-- A request that has no answer is a failure, whatever it has been sent for. -/
theorem failure?_error (op : Operation) (e : Backend.Error) : op.failure? (.error e) = some e := by
  cases op <;> rfl

/-- A request that cannot be sent counts as an error of the gateway. -/
theorem failureStatus_transport (op : Operation) (message : String) :
    op.failureStatus (.transport message) = 502 := by
  cases op <;> rfl

section

variable {c : Client} {tenant method : String} {n m : Network} {id : String}
  {joined : Hold.Record → Hold.Payload → Prop} {op : Operation} {rest : List Operation}
  {o : Outgoing} {os : List Outgoing} {response : Response}

theorem not_cameOf_nil {plan : List Operation} {i : Nat} {op : Operation}
    {result : Except Backend.Error Answer} : ¬ CameOf c n plan [] i op result := by
  rintro ⟨-, o, ho, -⟩
  cases ho

/-- What has come of the operations of a plan is what has come of the first one and, from the
network after it, of the others. -/
theorem cameOf_cons_iff (hexchange : Exchange c tenant op n o m) {i : Nat} {op' : Operation}
    {result : Except Backend.Error Answer} :
    CameOf c n (op :: rest) (o :: os) i op' result ↔
      (i = 0 ∧ op' = op ∧ result = c.answerTo o (n.reactionTo 0)) ∨
      ∃ j, i = j + 1 ∧ CameOf c m rest os j op' result := by
  unfold CameOf
  cases i with
  | zero => simp [eq_comm]
  | succ j =>
      have hshift : m.reactionTo j = n.reactionTo (j + 1) := by
        rw [hexchange.leads.reactionTo_eq, hexchange.arrived_eq, List.length_singleton,
          Nat.add_comm]
      simp [hshift]

/-- Where one request has arrived, nothing but what has come of that one is to be told. -/
theorem cameOf_singleton_iff (hexchange : Exchange c tenant op n o m) {i : Nat}
    {op' : Operation} {result : Except Backend.Error Answer} :
    CameOf c n (op :: rest) [o] i op' result ↔
      i = 0 ∧ op' = op ∧ result = c.answerTo o (n.reactionTo 0) := by
  rw [cameOf_cons_iff hexchange]
  constructor
  · rintro (hfirst | ⟨j, -, hcame⟩)
    · exact hfirst
    · exact absurd hcame not_cameOf_nil
  · exact Or.inl

/-- The network takes the same requests after an exchange as before it. -/
theorem takes_iff_of_exchange (hexchange : Exchange c tenant op n o m) {o' : Outgoing} :
    m.Takes o' ↔ n.Takes o' := by
  have hreached : m.reaches o'.url = n.reaches o'.url := congrFun hexchange.reaches_eq o'.url
  constructor
  · exact fun h => ⟨h.host, h.headers, h.scheme, h.sendable, hreached.symm.trans h.reached⟩
  · exact fun h => ⟨h.host, h.headers, h.scheme, h.sendable, hreached.trans h.reached⟩

end

namespace FollowsPlan

variable {c : Client} {tenant method : String} {n m : Network} {id : String}
  {joined : Hold.Record → Hold.Payload → Prop} {op : Operation} {rest : List Operation}
  {o : Outgoing} {os : List Outgoing} {response : Response}

/-- Where nothing has arrived, all that counts is why the plan has broken off. -/
theorem of_nil {plan : List Operation}
    (h : ∀ op, plan[0]? = some op →
      (response.status = 502 ∧ ∀ o, op.wire? c tenant = some o → ¬ n.Takes o) ∨
      (response.status = 422 ∧ Text.isBlank id = true ∧
        ∃ holdId payload, .submit id holdId payload ∈ plan)) :
    FollowsPlan c tenant method n id joined plan [] response where
  calls_prefix := List.nil_prefix
  fails _ _ _ _ hcame := absurd hcame not_cameOf_nil
  answers _ _ _ hcame := absurd hcame not_cameOf_nil
  breaks_off op hop _ := h op hop
  found _ _ _ _ hcame := absurd hcame not_cameOf_nil
  submitted _ _ _ _ _ _ _ hcame := absurd hcame not_cameOf_nil

/-- An operation that fails ends the plan. -/
theorem stops {e : Backend.Error} (hexchange : Exchange c tenant op n o m)
    (hfails : op.failure? (c.answerTo o (n.reactionTo 0)) = some e) (hrest : rest ≠ [])
    (hstatus : response.status = op.failureStatus e)
    (hrelays : ∀ holdId a, op = .fetchHold holdId → e = .status a → Relays method a response) :
    FollowsPlan c tenant method n id joined (op :: rest) [o] response where
  calls_prefix := by
    rw [List.map_cons, List.map_cons, hexchange.wire_eq]
    exact List.cons_prefix_cons.mpr ⟨rfl, List.nil_prefix⟩
  fails i op' result e' hcame he' := by
    obtain ⟨rfl, rfl, rfl⟩ := (cameOf_singleton_iff hexchange).mp hcame
    obtain rfl : e = e' := Option.some.inj (hfails.symm.trans he')
    exact ⟨rfl, hstatus, hrelays⟩
  answers i op' a hcame hlast := by
    obtain ⟨rfl, -, -⟩ := (cameOf_singleton_iff hexchange).mp hcame
    exact absurd (List.length_eq_zero_iff.mp (Nat.succ.inj hlast).symm) hrest
  breaks_off op' _ hall := by
    have hnone := hall 0 op _ ((cameOf_singleton_iff hexchange).mpr ⟨rfl, rfl, rfl⟩)
    rw [hfails] at hnone
    cases hnone
  -- a lookup that has found somebody, or a hold that has been read, is no failure
  found i externalId id' a hcame hfound := by
    obtain ⟨-, rfl, hresult⟩ := (cameOf_singleton_iff hexchange).mp hcame
    rw [← hresult] at hfails
    simp [Operation.failure?, Except.bind, hfound] at hfails
  submitted i holdId patronId holdId' a hold payload hcame hfound _ := by
    obtain ⟨-, rfl, hresult⟩ := (cameOf_singleton_iff hexchange).mp hcame
    rw [← hresult] at hfails
    simp [Operation.failure?, Except.bind, hfound] at hfails

/-- The last operation of a plan passes its answer on, if it has one. -/
theorem last (hexchange : Exchange c tenant op n o m) (hlast : IsLast op)
    (hstatus : ∀ e, c.answerTo o (n.reactionTo 0) = .error e →
      response.status = op.failureStatus e)
    (hrelays : ∀ a, c.answerTo o (n.reactionTo 0) = .ok a → Relays method a response) :
    FollowsPlan c tenant method n id joined [op] [o] response where
  calls_prefix := by
    simp [hexchange.wire_eq]
  fails i op' result e hcame hfails := by
    obtain ⟨rfl, rfl, hresult⟩ := (cameOf_singleton_iff hexchange).mp hcame
    cases result with
    | ok a =>
        rw [hlast.failure?_ok] at hfails
        cases hfails
    | error e' =>
        rw [failure?_error] at hfails
        obtain rfl := Option.some.inj hfails
        refine ⟨rfl, hstatus e' hresult.symm, ?_⟩
        rintro holdId a rfl
        cases hlast
  answers i op' a hcame _ :=
    hrelays a ((cameOf_singleton_iff hexchange).mp hcame).2.2.symm
  breaks_off op' hop' _ := by cases hop'
  found i externalId id' a hcame _ := by
    obtain ⟨-, rfl, -⟩ := (cameOf_singleton_iff hexchange).mp hcame
    cases hlast
  submitted i holdId patronId holdId' a hold payload hcame _ _ := by
    obtain ⟨-, rfl, -⟩ := (cameOf_singleton_iff hexchange).mp hcame
    cases hlast

/-- An operation that succeeds leaves the rest of the plan to be followed. -/
theorem onward (hexchange : Exchange c tenant op n o m)
    (hsucceeds : op.failure? (c.answerTo o (n.reactionTo 0)) = none) (hne : rest ≠ [])
    (hfound : ∀ externalId id' a, op = .lookup externalId →
      c.answerTo o (n.reactionTo 0) = .ok a → foundUser a = .ok id' → id = id')
    (hsubmitted : ∀ holdId patronId holdId' a hold payload, op = .fetchHold holdId →
      c.answerTo o (n.reactionTo 0) = .ok a → foundHold a = .ok hold →
      rest[0]? = some (.submit patronId holdId' payload) → joined hold payload)
    (hrest : FollowsPlan c tenant method m id joined rest os response) :
    FollowsPlan c tenant method n id joined (op :: rest) (o :: os) response where
  calls_prefix := by
    rw [List.map_cons, List.map_cons, hexchange.wire_eq]
    exact List.cons_prefix_cons.mpr ⟨rfl, hrest.calls_prefix⟩
  -- in each of these, the first request is the one at hand or lies behind
  fails i op' result e hcame hfails := by
    rcases (cameOf_cons_iff hexchange).mp hcame with ⟨-, rfl, rfl⟩ | ⟨j, rfl, hcame'⟩
    · rw [hsucceeds] at hfails
      cases hfails
    · obtain ⟨hlength, htells⟩ := hrest.fails j op' result e hcame' hfails
      exact ⟨congrArg Nat.succ hlength, htells⟩
  answers i op' a hcame hlast := by
    rcases (cameOf_cons_iff hexchange).mp hcame with ⟨rfl, -, -⟩ | ⟨j, rfl, hcame'⟩
    · exact absurd (List.length_eq_zero_iff.mp (Nat.succ.inj hlast).symm) hne
    · exact hrest.answers j op' a hcame' (Nat.succ.inj hlast)
  breaks_off op' hop' hall := by
    have hbreaks := hrest.breaks_off op' hop' fun j op'' result hcame =>
      hall (j + 1) op'' result ((cameOf_cons_iff hexchange).mpr (Or.inr ⟨j, rfl, hcame⟩))
    rcases hbreaks with ⟨hstatus, hwire⟩ | ⟨hstatus, hblank, holdId, payload, hmem⟩
    · exact Or.inl ⟨hstatus, fun o' ho' htakes =>
        hwire o' ho' ((takes_iff_of_exchange hexchange).mpr htakes)⟩
    · exact Or.inr ⟨hstatus, hblank, holdId, payload, List.mem_cons_of_mem _ hmem⟩
  found i externalId id' a hcame hid' := by
    rcases (cameOf_cons_iff hexchange).mp hcame with ⟨-, rfl, hresult⟩ | ⟨j, -, hcame'⟩
    · exact hfound externalId id' a rfl hresult.symm hid'
    · exact hrest.found j externalId id' a hcame' hid'
  submitted i holdId patronId holdId' a hold payload hcame hhold hnext := by
    rcases (cameOf_cons_iff hexchange).mp hcame with ⟨rfl, rfl, hresult⟩ | ⟨j, rfl, hcame'⟩
    · exact hsubmitted holdId patronId holdId' a hold payload rfl hresult.symm hhold hnext
    · exact hrest.submitted j holdId patronId holdId' a hold payload hcame' hhold hnext

/-! ## With what an operation has done -/

/-- An operation that has failed, be it that its request could not be sent, ends the plan. -/
theorem ask_failed {e : Backend.Error} (hdirect : n.Direct c.timeout (c.ask n tenant op).2)
    (hfails : op.failure? (c.ask n tenant op).1 = some e) (hne : rest ≠ [])
    (hstatus : response.status = op.failureStatus e)
    (hrelays : ∀ holdId a, op = .fetchHold holdId → e = .status a → Relays method a response) :
    FollowsPlan c tenant method n id joined (op :: rest) ((c.ask n tenant op).2.arrivedSince n)
      response := by
  rcases Client.ask_cases hdirect with ⟨hwire, hsame, message, hresult⟩ | ⟨o, hexchange, hresult⟩
  · rw [hresult, failure?_error] at hfails
    obtain rfl := Option.some.inj hfails
    rw [failureStatus_transport] at hstatus
    rw [hsame, Network.arrivedSince_self]
    refine of_nil fun op' hop' => Or.inl ⟨hstatus, ?_⟩
    obtain rfl : op = op' := Option.some.inj hop'
    exact hwire
  · rw [hresult] at hfails
    rw [hexchange.arrived_eq]
    exact stops hexchange hfails hne hstatus hrelays

/-- The last operation of a plan settles what the client is told. -/
theorem ask_last (hdirect : n.Direct c.timeout (c.ask n tenant op).2) (hlast : IsLast op)
    (hstatus : ∀ e, (c.ask n tenant op).1 = .error e → response.status = op.failureStatus e)
    (hrelays : ∀ a, (c.ask n tenant op).1 = .ok a → Relays method a response) :
    FollowsPlan c tenant method n id joined [op] ((c.ask n tenant op).2.arrivedSince n)
      response := by
  rcases Client.ask_cases hdirect with ⟨hwire, hsame, message, hresult⟩ | ⟨o, hexchange, hresult⟩
  · have h502 := hstatus _ hresult
    rw [failureStatus_transport] at h502
    rw [hsame, Network.arrivedSince_self]
    refine of_nil fun op' hop' => Or.inl ⟨h502, ?_⟩
    obtain rfl : op = op' := Option.some.inj hop'
    exact hwire
  · rw [hresult] at hstatus hrelays
    rw [hexchange.arrived_eq]
    exact last hexchange hlast hstatus hrelays

/-- An operation that has succeeded leaves the rest of the plan to be followed from there. -/
theorem ask_onward (hdirect : n.Direct c.timeout (c.ask n tenant op).2)
    (hleads : (c.ask n tenant op).2.Leads m)
    (hsucceeds : op.failure? (c.ask n tenant op).1 = none) (hne : rest ≠ [])
    (hfound : ∀ externalId id' a, op = .lookup externalId →
      (c.ask n tenant op).1 = .ok a → foundUser a = .ok id' → id = id')
    (hsubmitted : ∀ holdId patronId holdId' a hold payload, op = .fetchHold holdId →
      (c.ask n tenant op).1 = .ok a → foundHold a = .ok hold →
      rest[0]? = some (.submit patronId holdId' payload) → joined hold payload)
    (hrest : FollowsPlan c tenant method (c.ask n tenant op).2 id joined rest
      (m.arrivedSince (c.ask n tenant op).2) response) :
    FollowsPlan c tenant method n id joined (op :: rest) (m.arrivedSince n) response := by
  rcases Client.ask_cases hdirect with ⟨-, -, message, hresult⟩ | ⟨o, hexchange, hresult⟩
  · rw [hresult, failure?_error] at hsucceeds
    cases hsucceeds
  · rw [hresult] at hsucceeds hfound hsubmitted
    rw [hexchange.leads.arrivedSince_eq hleads, hexchange.arrived_eq]
    exact onward hexchange hsucceeds hne hfound hsubmitted hrest

end FollowsPlan

end Gateway
end PatronGateway
