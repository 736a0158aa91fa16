import PatronGateway.Proofs.Backend.Exchange
import PatronGateway.Proofs.Http.Final
import PatronGateway.Proofs.Text.Ascii

/-!
# Answers are kept as they are sent

An operation of the backend's client is answered where the sending of its request ends.  If that
answer arrives whole, and its content type is readable or missing, the client keeps all of it.

* `Answered` says what reply of the network an operation is answered with, be it after redirects.
* `Answer.Keeps` says that an answer has all that a reply has.
* `exists_ask_of_answered` puts that together; `answered_of_ask` says that no operation has an
  answer without a reply.
-/

namespace PatronGateway
namespace Http
namespace Reply

/-- A reply arrives whole if nothing of its body is missing. -/
def IsWhole (r : Reply) : Prop := r.deliver.complete = true

/-- The content type of a reply is readable, or there is none. -/
def HasReadableType (r : Reply) : Prop :=
  ∀ value, r.contentType = some value → value.all isReadableByte = true

theorem hasReadableType_of_readable? {r : Reply} {text : String}
    (h : r.contentType.bind readable? = some text) : r.HasReadableType := by
  intro value hvalue
  rw [hvalue, Option.bind_some] at h
  unfold readable? at h
  split at h
  · rename_i hall
    exact hall
  · cases h

@[simp] theorem status_deliver (r : Reply) : r.deliver.status = r.status := by
  unfold deliver
  split <;> rfl

@[simp] theorem contentType_deliver (r : Reply) : r.deliver.contentType = r.contentType := by
  unfold deliver
  split <;> rfl

end Reply
end Http

namespace Backend

open Http (Network Reply)

/-- An answer has the status, the content type and the body of a reply. -/
structure Answer.Keeps (a : Answer) (r : Reply) : Prop where
  status_eq : a.status = r.status
  contentType_eq : (a.contentType.filter Http.isValue).toList.map Text.Utf8.encode =
    r.contentType.toList
  body_eq : a.body = r.deliver.body

namespace Client

/-- A whole reply with a readable content type is accepted, and nothing of it is lost. -/
theorem exists_accept {r : Reply} (hwhole : r.IsWhole) (hreadable : r.HasReadableType) :
    ∃ a, accept r.deliver = .ok a ∧ a.Keeps r := by
  have hcomplete : r.deliver.complete = true := hwhole
  unfold accept
  rw [if_pos hcomplete, Reply.status_deliver, Reply.contentType_deliver]
  refine ⟨_, rfl, rfl, ?_, rfl⟩
  cases htype : r.contentType with
  | none => rfl
  | some value =>
      obtain ⟨text, hread, hvalue, hencode⟩ := Http.readable?_of_all (hreadable value htype)
      simp [hread, Option.filter, hvalue, hencode]

/-- Only a whole reply is accepted. -/
theorem eq_of_accept {r : Reply} {a : Answer} (h : accept r.deliver = .ok a) :
    r.IsWhole ∧ a = ⟨r.status, r.contentType.bind Http.readable?, r.deliver.body⟩ := by
  unfold accept at h
  split at h
  · rename_i hwhole
    rw [Reply.status_deliver, Reply.contentType_deliver] at h
    exact ⟨hwhole, (Except.ok.inj h).symm⟩
  · cases h

/-- An operation is answered with a reply: its request is, and that leads to a later state of
the network. -/
def Answered (c : Client) (n : Network) (tenant : String) (operation : Operation) (r : Reply)
    (m : Network) : Prop :=
  ∃ u, c.endpoint operation.path = .ok u ∧
    Network.Answers c.timeout n (operation.outgoing c tenant u) r m

section

variable {c : Client} {n m : Network} {tenant : String} {operation : Operation} {r : Reply}
  {a : Answer}

theorem Answered.ask_eq (h : c.Answered n tenant operation r m) :
    c.ask n tenant operation = (accept r.deliver, m) := by
  obtain ⟨u, hendpoint, hanswers⟩ := h
  have hsend := Network.send_eq_ok_iff.mpr ⟨r, hanswers, rfl⟩
  unfold ask sendTo
  rw [hendpoint]
  dsimp only
  unfold send
  rw [hsend]

/-- An operation that is answered with a whole reply has that for its answer. -/
theorem exists_ask_of_answered (h : c.Answered n tenant operation r m) (hwhole : r.IsWhole)
    (hreadable : r.HasReadableType) :
    ∃ a, c.ask n tenant operation = (.ok a, m) ∧ a.Keeps r := by
  obtain ⟨a, haccept, hkeeps⟩ := exists_accept hwhole hreadable
  exact ⟨a, by rw [h.ask_eq, haccept], hkeeps⟩

/-- Every answer is a reply that has been accepted. -/
theorem answered_of_ask (h : c.ask n tenant operation = (.ok a, m)) :
    ∃ r, c.Answered n tenant operation r m ∧ accept r.deliver = .ok a := by
  unfold ask sendTo at h
  cases hendpoint : c.endpoint operation.path with
  | error e =>
      rw [hendpoint] at h
      cases h
  | ok u =>
      rw [hendpoint] at h
      dsimp only at h
      unfold send at h
      cases hsend : n.send c.timeout (operation.outgoing c tenant u) with
      | mk result after =>
          rw [hsend] at h
          cases result with
          | error e => cases h
          | ok d =>
              obtain ⟨haccept, rfl⟩ := Prod.mk.inj h
              obtain ⟨r, hanswers, rfl⟩ := Network.send_eq_ok_iff.mp hsend
              exact ⟨r, ⟨u, hendpoint, hanswers⟩, haccept⟩

end

end Client
end Backend
end PatronGateway
