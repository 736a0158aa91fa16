import PatronGateway.Backend.Client
import PatronGateway.Proofs.Http.Trail

/-!
# The requests of the backend's client

The client is asked for four things, and each of them is one sending.  This module
gives them one name, `Operation`, and says of all four at once which requests they
make arrive: a trail that begins at the backend and whose requests all bear the header
fields of the client.  `Called` says that nothing but such requests, for one tenant, has
arrived for a while.
-/

namespace PatronGateway
namespace Backend

open Http (Headers Network Outgoing Trail)

namespace Client

/-- What the client can be asked to do for a tenant. -/
inductive Operation where
  | lookup (externalId : String)
  | fetchHold (holdId : String)
  | submit (patronId holdId : String) (payload : Hold.Payload)
  | forward (request : Forward)

/-- The network after an operation for a tenant. -/
def perform (c : Client) (n : Network) (tenant : String) : Operation → Network
  | .lookup externalId => (c.lookup n tenant externalId).2
  | .fetchHold holdId => (c.fetchHold n tenant holdId).2
  | .submit patronId holdId payload => (c.submit n tenant patronId holdId payload).2
  | .forward request => (c.forward n tenant request).2

/-- A request is one of the client's if some operation for some tenant makes it arrive
somewhere. -/
def Sends (c : Client) (o : Outgoing) : Prop :=
  ∃ n tenant operation, o ∈ (c.perform n tenant operation).arrivedSince n

namespace Operation

/-- The path at the backend. -/
def path : Operation → List String
  | .lookup _ => ["users"]
  | .fetchHold holdId => ["circulation", "requests", holdId]
  | .submit patronId holdId _ => ["patron", "account", patronId, "hold", holdId, "cancel"]
  | .forward request => request.path

/-- The request for a URL of the backend. -/
def outgoing (c : Client) (tenant : String) : Operation → Url → Outgoing
  | .lookup externalId => fun u => c.request "GET" (addQuery u (userQuery externalId)) tenant
  | .fetchHold _ => fun u => c.request "GET" u tenant
  | .submit _ _ payload => fun u =>
      withJsonBody (c.request "POST" u tenant) (Text.Utf8.encode payload.toDocument.write)
  | .forward request => c.passedOn tenant request

variable (c : Client) (tenant : String) (operation : Operation) (u : Url)

/-- A JSON body adds nothing but its own description to the header fields. -/
theorem values_withJsonBody (o : Outgoing) (body : Bytes) {name : String}
    (hname : name ≠ "content-type") :
    (withJsonBody o body).headers.values name = o.headers.values name := by
  have hnil : Headers.values [("content-type", Answer.jsonType)] name = [] :=
    Headers.values_eq_nil (by simpa using Ne.symm hname)
  simp [withJsonBody, hnil]

/-- Every operation sends the header fields of the client. -/
theorem values_outgoing {name : String} (hname : name ≠ "content-type") :
    (operation.outgoing c tenant u).headers.values name =
      Headers.values (c.headers tenant) name := by
  cases operation with
  | lookup externalId => rfl
  | fetchHold holdId => rfl
  | submit patronId holdId payload => exact values_withJsonBody _ _ hname
  | forward request =>
      show (c.passedOn tenant request u).headers.values name = _
      unfold passedOn
      dsimp only
      split
      · exact values_withJsonBody _ _ hname
      · rfl

theorem origin_addQuery (pairs : List (String × String)) :
    (addQuery u pairs).origin = u.origin := rfl

/-- Every operation sends its request to where the URL of its path is. -/
theorem origin_outgoing : (operation.outgoing c tenant u).url.origin = u.origin := by
  cases operation with
  | lookup externalId => exact origin_addQuery _ _
  | fetchHold holdId => rfl
  | submit patronId holdId payload => rfl
  | forward request =>
      show (c.passedOn tenant request u).url.origin = _
      unfold passedOn
      dsimp only
      have hquery : (if request.query.isEmpty then u else addQuery u request.query).origin =
          u.origin := by
        split
        · rfl
        · exact origin_addQuery _ _
      split
      · exact hquery
      · exact hquery

end Operation

/-- The paths of the backend are all where the backend is. -/
theorem origin_endpoint {c : Client} {segments : List String} {u : Url}
    (h : c.endpoint segments = .ok u) : u.origin = c.base.origin := by
  unfold endpoint Url.extend? at h
  cases hpath : c.base.path with
  | rooted path =>
      rw [hpath] at h
      cases h
      rfl
  | unstructured text =>
      rw [hpath] at h
      cases h

theorem perform_eq_sendTo (c : Client) (n : Network) (tenant : String) (operation : Operation) :
    c.perform n tenant operation =
      (c.sendTo n operation.path (operation.outgoing c tenant)).2 := by
  cases operation <;> rfl

theorem send_snd (c : Client) (n : Network) (o : Outgoing) :
    (c.send n o).2 = (n.send c.timeout o).2 := by
  unfold send
  cases n.send c.timeout o with
  | mk result after => cases result <;> rfl

/-- What arrives first is what has been sent, less the user that its URL may name. -/
theorem eq_of_head?_send {c : Client} {n : Network} {o first : Outgoing}
    (h : ((c.send n o).2.arrivedSince n).head? = some first) :
    first = { o with url := o.url.withoutUserinfo } := by
  obtain ⟨os, hos, -, htrail⟩ := n.send_trail c.timeout o
  rw [send_snd, Network.arrivedSince_eq hos] at h
  exact htrail.head?_eq h

/-- Every operation leaves a trail.  It begins where the backend is, with the header
fields of the client. -/
theorem perform_trail (c : Client) (n : Network) (tenant : String) (operation : Operation) :
    ∃ o, o.url.origin = c.base.origin ∧
      (∀ name, name ≠ "content-type" →
        o.headers.values name = Headers.values (c.headers tenant) name) ∧
      (c.perform n tenant operation).arrived =
        n.arrived ++ (c.perform n tenant operation).arrivedSince n ∧
      Trail n.reactions o ((c.perform n tenant operation).arrivedSince n) := by
  rw [perform_eq_sendTo]
  unfold sendTo
  cases hendpoint : c.endpoint operation.path with
  | error e =>
      -- there is no URL to send to, and the empty trail may begin anywhere
      have hsince : n.arrivedSince n = [] := Network.arrivedSince_eq (by simp)
      refine ⟨operation.outgoing c tenant c.base, operation.origin_outgoing c tenant c.base,
        fun name hname => operation.values_outgoing c tenant c.base hname, ?_, ?_⟩
      · simp [hsince]
      · rw [hsince]
        exact .none _ _
  | ok u =>
      obtain ⟨os, hos, -, htrail⟩ := n.send_trail c.timeout (operation.outgoing c tenant u)
      rw [← send_snd c n] at hos
      have hsince := Network.arrivedSince_eq hos
      dsimp only
      rw [hsince]
      refine ⟨_, ?_, ?_, hos, htrail⟩
      · exact (operation.origin_outgoing c tenant u).trans (origin_endpoint hendpoint)
      · exact fun name hname => operation.values_outgoing c tenant u hname

theorem arrived_perform (c : Client) (n : Network) (tenant : String) (operation : Operation) :
    (c.perform n tenant operation).arrived =
      n.arrived ++ (c.perform n tenant operation).arrivedSince n := by
  obtain ⟨_, _, _, harrived, _⟩ := c.perform_trail n tenant operation
  exact harrived

/-- Every request that an operation makes arrive bears the header fields of the
client. -/
theorem values_perform {c : Client} {n : Network} {tenant : String} {operation : Operation}
    {o : Outgoing} (ho : o ∈ (c.perform n tenant operation).arrivedSince n) {name : String}
    (hname : name ≠ "content-type") :
    o.headers.values name = Headers.values (c.headers tenant) name := by
  obtain ⟨first, _, hvalues, _, htrail⟩ := c.perform_trail n tenant operation
  rw [htrail.values_eq hname ho, hvalues name hname]

/-- Every request that an operation makes arrive names the tenant of the operation, once,
and nobody else. -/
theorem tenant_perform {c : Client} {n : Network} {tenant : String} {operation : Operation}
    {o : Outgoing} (ho : o ∈ (c.perform n tenant operation).arrivedSince n) :
    o.headers.values tenantHeader = [tenant] := by
  rw [values_perform ho (by decide)]
  unfold headers
  cases c.token <;> rfl

/-- An operation whose request has no body makes no request with a body arrive. -/
theorem body_of_mem_perform {c : Client} {n : Network} {tenant : String} {operation : Operation}
    {o : Outgoing} (ho : o ∈ (c.perform n tenant operation).arrivedSince n)
    (hnone : ∀ u, (operation.outgoing c tenant u).body = [] ∧
      (operation.outgoing c tenant u).headers.values "content-type" = []) :
    o.body = [] ∧ o.headers.values "content-type" = [] := by
  rw [perform_eq_sendTo] at ho
  unfold sendTo at ho
  cases hendpoint : c.endpoint operation.path with
  | error e =>
      rw [hendpoint, Network.arrivedSince_eq (List.append_nil n.arrived).symm] at ho
      cases ho
  | ok u =>
      obtain ⟨os, hos, -, htrail⟩ := n.send_trail c.timeout (operation.outgoing c tenant u)
      rw [hendpoint] at ho
      dsimp only at ho
      rw [send_snd, Network.arrivedSince_eq hos] at ho
      rcases htrail.body_cases ho with ⟨hbody, htypes⟩ | hnothing
      · exact ⟨hbody.trans (hnone u).1, htypes.trans (hnone u).2⟩
      · exact hnothing

/-- All that has arrived between two states of the network has been made to arrive by
operations for one tenant. -/
def Called (c : Client) (tenant : String) (n m : Network) : Prop :=
  ∃ os, m.arrived = n.arrived ++ os ∧
    ∀ o ∈ os, ∃ before operation, o ∈ (c.perform before tenant operation).arrivedSince before

namespace Called

variable {c : Client} {tenant : String} {n m k : Network}

theorem refl (c : Client) (tenant : String) (n : Network) : c.Called tenant n n :=
  ⟨[], by simp, by simp⟩

theorem trans (h : c.Called tenant n m) (h' : c.Called tenant m k) : c.Called tenant n k := by
  obtain ⟨os, hos, hcalled⟩ := h
  obtain ⟨ps, hps, hcalled'⟩ := h'
  refine ⟨os ++ ps, by rw [hps, hos, List.append_assoc], ?_⟩
  intro o ho
  rcases List.mem_append.mp ho with hfirst | hsecond
  · exact hcalled o hfirst
  · exact hcalled' o hsecond

theorem perform (c : Client) (n : Network) (tenant : String) (operation : Operation) :
    c.Called tenant n (c.perform n tenant operation) :=
  ⟨_, c.arrived_perform n tenant operation, fun _ ho => ⟨n, operation, ho⟩⟩

end Called

end Client
end Backend
end PatronGateway
