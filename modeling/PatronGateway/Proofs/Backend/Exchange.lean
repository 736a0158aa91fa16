import PatronGateway.Patron.RequestError
import PatronGateway.Proofs.Backend.Operation
import PatronGateway.Proofs.Http.Direct

/-!
# Asking the backend

An operation of the backend's client makes one request arrive, if any, as long as no answer is
a redirect that is followed.  This module says what that request is, what comes of it, and when
what comes of it is a failure.

* `Operation.wire?` is the request, and `answerTo` is what comes of it, given the reaction of
  the network.
* `ask_cases` says that an operation is an `Exchange` of just these, or leaves the network alone.
* `Operation.failure?` says whether an answer is a failure, and `Operation.failureStatus` what
  status it is worth to a client.
-/

namespace PatronGateway
namespace Backend
namespace Client

open Http (Network Outgoing Reaction SendError)
open Patron (RequestError)

/-- The request of an operation as it goes out.  There is none where the address of the backend
cannot take a path. -/
def Operation.wire? (c : Client) (tenant : String) (operation : Operation) : Option Outgoing :=
  match c.endpoint operation.path with
  | .error _ => none
  | .ok u =>
    let o := operation.outgoing c tenant u
    some { o with url := o.url.withoutUserinfo }

/-- What comes of a request that arrives, given the reaction to it. -/
def answerTo (c : Client) (o : Outgoing) (reaction : Reaction) : Except Error Answer :=
  match o.outcome c.timeout reaction with
  | .error e => .error (sendError e)
  | .ok d => accept d

/-- Carries out an operation, and takes its answer as it comes. -/
def ask (c : Client) (n : Network) (tenant : String) (operation : Operation) :
    Except Error Answer × Network :=
  c.sendTo n operation.path (operation.outgoing c tenant)

/-! ## Operations and what is made of their answers -/

section

variable (c : Client) (n : Network) (tenant : String)

theorem lookup_eq_ask (externalId : String) :
    c.lookup n tenant externalId =
      ((c.ask n tenant (.lookup externalId)).1.bind foundUser,
        (c.ask n tenant (.lookup externalId)).2) := rfl

theorem fetchHold_eq_ask (holdId : String) :
    c.fetchHold n tenant holdId =
      ((c.ask n tenant (.fetchHold holdId)).1.bind foundHold,
        (c.ask n tenant (.fetchHold holdId)).2) := rfl

theorem forward_eq_ask (request : Forward) :
    c.forward n tenant request = c.ask n tenant (.forward request) := rfl

end

/-- An operation has made its request arrive, and nothing else. -/
structure Exchange (c : Client) (tenant : String) (operation : Operation) (n : Network)
    (o : Outgoing) (m : Network) : Prop where
  wire_eq : operation.wire? c tenant = some o
  taken : n.Takes o
  leads : n.Leads m
  arrived_eq : m.arrivedSince n = [o]
  reaches_eq : m.reaches = n.reaches
  now_le : n.now ≤ m.now

section

variable {c : Client} {n : Network} {tenant : String} {operation : Operation}

theorem ask_leads (c : Client) (n : Network) (tenant : String) (operation : Operation) :
    n.Leads (c.ask n tenant operation).2 := by
  unfold ask sendTo
  cases c.endpoint operation.path with
  | error e => exact Network.Leads.refl n
  | ok u =>
      dsimp only
      rw [send_snd]
      exact n.send_leads _ _

theorem endpoint_error {segments : List String} {e : Error} (h : c.endpoint segments = .error e) :
    ∃ message, e = .transport message := by
  unfold endpoint at h
  split at h
  · cases h
  · exact ⟨_, (Except.error.inj h).symm⟩

theorem sendError_of_ne_timeout {e : SendError} (h : e ≠ .timeout) :
    ∃ message, sendError e = .transport message := by
  cases e with
  | timeout => exact absurd rfl h
  | badUrl url => exact ⟨_, rfl⟩
  | badHeader => exact ⟨_, rfl⟩
  | unsent url => exact ⟨_, rfl⟩
  | redirects url => exact ⟨_, rfl⟩
  | cutOff => exact ⟨_, rfl⟩

theorem wire?_of_endpoint_error {e : Error} (h : c.endpoint operation.path = .error e) :
    operation.wire? c tenant = none := by
  unfold Operation.wire?
  rw [h]

theorem wire?_of_endpoint {u : Url} (h : c.endpoint operation.path = .ok u) :
    operation.wire? c tenant =
      some { operation.outgoing c tenant u with
        url := (operation.outgoing c tenant u).url.withoutUserinfo } := by
  unfold Operation.wire?
  rw [h]

/-- An operation whose request the network does not take fails at once.  Any other one makes
its request arrive, and the reaction to that settles what comes of it. -/
theorem ask_cases (hdirect : n.Direct c.timeout (c.ask n tenant operation).2) :
    ((∀ o, operation.wire? c tenant = some o → ¬ n.Takes o) ∧
      (c.ask n tenant operation).2 = n ∧
      ∃ message, (c.ask n tenant operation).1 = .error (.transport message)) ∨
    ∃ o, Exchange c tenant operation n o (c.ask n tenant operation).2 ∧
      (c.ask n tenant operation).1 = c.answerTo o (n.reactionTo 0) := by
  have hleads := c.ask_leads n tenant operation
  unfold ask sendTo at hdirect hleads ⊢
  cases hendpoint : c.endpoint operation.path with
  | error e =>
      obtain ⟨message, rfl⟩ := endpoint_error hendpoint
      refine Or.inl ⟨?_, rfl, message, rfl⟩
      intro o ho
      rw [wire?_of_endpoint_error hendpoint] at ho
      cases ho
  | ok u =>
      rw [hendpoint] at hdirect hleads
      dsimp only at hdirect hleads ⊢
      have hwire : operation.wire? c tenant = _ := wire?_of_endpoint hendpoint
      generalize operation.outgoing c tenant u = o at hdirect hleads hwire ⊢
      rw [send_snd] at hdirect hleads
      by_cases htaken : n.Takes { o with url := o.url.withoutUserinfo }
      · obtain ⟨now, hnow, hsend⟩ := Network.send_of_takes htaken hdirect
        refine Or.inr ⟨_, ⟨hwire, htaken, ?_, ?_, ?_, ?_⟩, ?_⟩
        · rw [send_snd]
          exact hleads
        · rw [send_snd, hsend]
          exact Network.arrivedSince_eq rfl
        · rw [send_snd, hsend]
        · rw [send_snd, hsend]
          exact hnow
        · unfold send answerTo
          rw [hsend]
          cases Outgoing.outcome _ c.timeout (n.reactionTo 0) <;> rfl
      · obtain ⟨e, hother, hsend⟩ := @Network.send_of_not_takes n c.timeout o htaken
        obtain ⟨message, hmessage⟩ := sendError_of_ne_timeout hother
        left
        unfold send
        rw [hsend]
        refine ⟨?_, rfl, message, congrArg Except.error hmessage⟩
        intro o' ho'
        rw [hwire] at ho'
        obtain rfl := Option.some.inj ho'
        exact htaken

/-- A request that has no answer has run into the limit, or has been lost on the way. -/
theorem ask_error {e : Error} (h : (c.ask n tenant operation).1 = .error e) :
    e = .timeout ∨ ∃ message, e = .transport message := by
  have hsendError : ∀ e' : SendError, sendError e' = e →
      e = .timeout ∨ ∃ message, e = .transport message := by
    rintro e' rfl
    by_cases htimeout : e' = .timeout
    · exact Or.inl (by rw [htimeout]; rfl)
    · exact Or.inr (sendError_of_ne_timeout htimeout)
  unfold ask sendTo at h
  cases hendpoint : c.endpoint operation.path with
  | error e' =>
      rw [hendpoint] at h
      obtain rfl := Except.error.inj h
      exact Or.inr (endpoint_error hendpoint)
  | ok u =>
      rw [hendpoint] at h
      unfold send at h
      dsimp only at h
      generalize n.send c.timeout (operation.outgoing c tenant u) = run at h
      obtain ⟨result, after⟩ := run
      cases result with
      | error e' => exact hsendError e' (Except.error.inj h)
      | ok d =>
          change accept d = .error e at h
          unfold accept at h
          split at h
          · cases h
          · exact hsendError .cutOff (Except.error.inj h)

/-- Time does not go back while an operation is carried out. -/
theorem now_le_ask (hdirect : n.Direct c.timeout (c.ask n tenant operation).2) :
    n.now ≤ (c.ask n tenant operation).2.now := by
  rcases ask_cases hdirect with ⟨-, hsame, -⟩ | ⟨o, hexchange, -⟩
  · exact Nat.le_of_eq (congrArg Network.now hsame.symm)
  · exact hexchange.now_le

end

/-! ## What an answer is worth -/

/-- What has failed, if an operation has, given what has come of its request.  A lookup fails
unless it finds a user, and the reading of a hold unless it finds the hold; any answer to the
other operations will do. -/
def Operation.failure? : Operation → Except Error Answer → Option Error
  | .lookup _, result =>
    match result.bind foundUser with
    | .error e => some e
    | .ok _ => none
  | .fetchHold _, result =>
    match result.bind foundHold with
    | .error e => some e
    | .ok _ => none
  | .submit .., result | .forward _, result =>
    match result with
    | .error e => some e
    | .ok _ => none

/-- The status that a client is told where an operation has failed. -/
def Operation.failureStatus : Operation → Error → Nat
  | .lookup _, .notFound => 404
  | .fetchHold _, .notFound => 404
  | .fetchHold _, .status a => RequestError.carriedStatus a.status
  | _, .timeout => 504
  | _, _ => 502

end Client
end Backend
end PatronGateway
