import PatronGateway.Proofs.Http.Trail

/-!
# Sending where nothing is redirected

As long as no answer is a redirect that is followed, one sending makes one request arrive at
most, and the one reaction that the request takes settles what comes of it.

* `Outgoing.outcome` is what comes of a request, given the reaction to it.
* `Network.Leads` and `Network.Direct` speak of what has happened between two states of the
  network; `Direct.split` cuts that at a state in between.
* `Network.send_of_takes` and `Network.send_of_not_takes` say what a sending does, and
  `Network.send_handsOver` what it makes arrive, with or without redirects.
-/

namespace PatronGateway
namespace Http

open Cache (Moment)
open Time (Span)

/-- A reaction diverts a request if it is a redirect that comes in time and is followed. -/
def Diverts (limit : Span) (o : Outgoing) (reaction : Reaction) : Prop :=
  ∃ r target, reaction = .reply r ∧ r.delay ≤ limit.nanoseconds ∧
    redirectTarget? o r = some target ∧ isWebScheme target.scheme = true

/-- What comes of a request under a limit on time, where no redirect is followed. -/
def Outgoing.outcome (o : Outgoing) (limit : Span) : Reaction → Except SendError Delivery
  | .close => .error (.unsent o.url.text)
  | .hang _ => .error .timeout
  | .reply r =>
    if limit.nanoseconds < r.delay then .error .timeout
    else
      match redirectTarget? o r with
      | some target => .error (.badUrl target.text)
      | none => .ok r.deliver

namespace Network

/-! ## Between two states of the network -/

/-- From one state of the network to a later one, requests have arrived, and each of them has
taken one reaction. -/
structure Leads (n m : Network) : Prop where
  arrived_eq : m.arrived = n.arrived ++ m.arrivedSince n
  reactions_eq : m.reactions = n.reactions.drop (m.arrivedSince n).length

/-- No request that has arrived between two states has been diverted. -/
def Direct (limit : Span) (n m : Network) : Prop :=
  ∀ i o, (m.arrivedSince n)[i]? = some o → ¬ Diverts limit o (n.reactionTo i)

variable {n k m : Network} {limit : Span} {o : Outgoing}

@[simp] theorem arrivedSince_self (n : Network) : n.arrivedSince n = [] := by
  simp [arrivedSince]

theorem Leads.of_eq {os : List Outgoing} (harrived : m.arrived = n.arrived ++ os)
    (hreactions : m.reactions = n.reactions.drop os.length) :
    n.Leads m ∧ m.arrivedSince n = os := by
  have hsince := arrivedSince_eq harrived
  exact ⟨⟨by rw [hsince, harrived], by rw [hsince, hreactions]⟩, hsince⟩

theorem Leads.refl (n : Network) : n.Leads n := by
  have hnone : n.arrived = n.arrived ++ [] := by simp
  exact (Leads.of_eq hnone rfl).1

/-- What has arrived in all has arrived before and after a state in between. -/
theorem Leads.arrivedSince_eq (h : n.Leads k) (h' : k.Leads m) :
    m.arrivedSince n = k.arrivedSince n ++ m.arrivedSince k := by
  apply Network.arrivedSince_eq
  rw [h'.arrived_eq, ← List.append_assoc, ← h.arrived_eq]

theorem Leads.trans (h : n.Leads k) (h' : k.Leads m) : n.Leads m where
  arrived_eq := by
    rw [h.arrivedSince_eq h', ← List.append_assoc, ← h.arrived_eq]
    exact h'.arrived_eq
  reactions_eq := by
    rw [h.arrivedSince_eq h', List.length_append, ← List.drop_drop, ← h.reactions_eq]
    exact h'.reactions_eq

/-- The reactions after a while are those that are left. -/
theorem Leads.reactionTo_eq (h : n.Leads k) (i : Nat) :
    k.reactionTo i = n.reactionTo ((k.arrivedSince n).length + i) := by
  unfold reactionTo
  rw [h.reactions_eq, List.getD_eq_getElem?_getD, List.getD_eq_getElem?_getD,
    List.getElem?_drop]

/-- A run that is direct is so before and after a state in between. -/
theorem Direct.split (hdirect : n.Direct limit m) (h : n.Leads k) (h' : k.Leads m) :
    n.Direct limit k ∧ k.Direct limit m := by
  unfold Direct at hdirect
  rw [h.arrivedSince_eq h'] at hdirect
  constructor
  · intro i o hi
    have hlt : i < (k.arrivedSince n).length := (List.getElem?_eq_some_iff.mp hi).1
    exact hdirect i o (by rw [List.getElem?_append_left hlt, hi])
  · intro i o hi
    rw [h.reactionTo_eq]
    refine hdirect _ o ?_
    rw [List.getElem?_append_right (Nat.le_add_right _ _), Nat.add_sub_cancel_left, hi]

/-- Where no answer has the status of a redirect, nothing is diverted. -/
theorem Direct.of_reactions (h : ∀ r, .reply r ∈ n.reactions → isRedirect r.status = false) :
    n.Direct limit m := by
  rintro i o - ⟨r, target, hreaction, -, htarget, -⟩
  have hstatus : isRedirect r.status = false := by
    unfold reactionTo at hreaction
    rw [List.getD_eq_getElem?_getD] at hreaction
    cases hi : n.reactions[i]? with
    | none =>
        rw [hi] at hreaction
        cases hreaction
        decide
    | some reaction =>
        rw [hi] at hreaction
        obtain rfl : reaction = .reply r := hreaction
        exact h r (List.mem_of_getElem? hi)
  unfold redirectTarget? at htarget
  rw [hstatus] at htarget
  cases htarget

/-! ## One sending -/

/-- The network takes a request that can be built, with either scheme of the web, and for whose
URL a connection comes about. -/
structure Takes (n : Network) (o : Outgoing) : Prop where
  host : hasHost o.url = true
  headers : (o.headers.all fun h => isValue h.2) = true
  scheme : isWebScheme o.url.scheme = true
  sendable : isSendable o.url = true
  reached : n.reaches o.url = true

/-- A request to a URL that the network reaches is the first one to arrive. -/
theorem follow_arrives (deadline : Moment) (redirectsLeft : Nat)
    (hreached : n.reaches o.url = true) :
    ∃ os, (follow deadline redirectsLeft n o).2.arrived = n.arrived ++ o :: os := by
  rw [follow.eq_def]
  dsimp only
  rw [if_neg (by simp [hreached]), arrive_eq]
  cases n.reactionTo 0 with
  | close => exact ⟨[], rfl⟩
  | hang ns => exact ⟨[], rfl⟩
  | reply r =>
      dsimp only
      split
      · exact ⟨[], rfl⟩
      · cases redirectTarget? o r with
        | none => exact ⟨[], rfl⟩
        | some target =>
            cases redirectsLeft with
            | zero => exact ⟨[], rfl⟩
            | succ left =>
                dsimp only
                split
                · obtain ⟨os, hos, -⟩ := follow_trail deadline left
                    (Network.advance { n with
                      reactions := n.reactions.tail, arrived := n.arrived ++ [o] } r.delay)
                    (o.redirected r.status target)
                  exact ⟨os, hos.trans (by simp [advance])⟩
                · exact ⟨[], rfl⟩

/-- Where the answer is no redirect that is followed, the reaction settles the outcome. -/
theorem follow_of_not_diverts (left : Nat) (hreached : n.reaches o.url = true)
    (h : ¬ Diverts limit o (n.reactionTo 0)) :
    ∃ now, n.now ≤ now ∧
      follow (n.now + limit.nanoseconds) (left + 1) n o =
        (o.outcome limit (n.reactionTo 0),
          { n with reactions := n.reactions.tail, arrived := n.arrived ++ [o], now := now }) := by
  rw [follow.eq_def]
  dsimp only
  rw [if_neg (by simp [hreached]), arrive_eq]
  cases hreaction : n.reactionTo 0 with
  | close => exact ⟨n.now, Nat.le_refl _, rfl⟩
  | hang ns => exact ⟨n.now + ns, Nat.le_add_right _ _, rfl⟩
  | reply r =>
      unfold Outgoing.outcome
      dsimp only
      by_cases hlate : limit.nanoseconds < r.delay
      · rw [if_pos (Nat.add_lt_add_left hlate _), if_pos hlate]
        exact ⟨n.now + limit.nanoseconds, Nat.le_add_right _ _, rfl⟩
      · rw [if_neg fun hlt => hlate (Nat.lt_of_add_lt_add_left hlt), if_neg hlate]
        cases htarget : redirectTarget? o r with
        | none => exact ⟨n.now + r.delay, Nat.le_add_right _ _, rfl⟩
        | some target =>
            have hother : ¬ isWebScheme target.scheme = true := fun hweb =>
              h ⟨r, target, hreaction, Nat.le_of_not_lt hlate, htarget, hweb⟩
            dsimp only
            rw [if_neg hother]
            exact ⟨n.now + r.delay, Nat.le_add_right _ _, rfl⟩

theorem send_leads (n : Network) (limit : Span) (o : Outgoing) : n.Leads (n.send limit o).2 := by
  obtain ⟨os, harrived, hreactions, -⟩ := n.send_trail limit o
  exact (Leads.of_eq harrived hreactions).1

/-- A request that the network does not take leaves it as it is, at once. -/
theorem send_of_not_takes (h : ¬ n.Takes { o with url := o.url.withoutUserinfo }) :
    ∃ e, e ≠ .timeout ∧ n.send limit o = (.error e, n) := by
  unfold send
  dsimp only
  split
  · exact ⟨_, by simp, rfl⟩
  · split
    · exact ⟨_, by simp, rfl⟩
    · split
      · exact ⟨_, by simp, rfl⟩
      · rename_i hnohost hheaders hurl
        have hhost : hasHost o.url = true := by simpa using hnohost
        have hurl : isWebScheme o.url.withoutUserinfo.scheme = true ∧
            isSendable o.url.withoutUserinfo = true := by simpa using hurl
        have hlost : n.reaches o.url.withoutUserinfo = false :=
          Bool.eq_false_iff.mpr fun hreached =>
            h ⟨hhost, by simpa using hheaders, hurl.1, hurl.2, hreached⟩
        refine ⟨.unsent o.url.withoutUserinfo.text, by simp, ?_⟩
        rw [follow.eq_def]
        dsimp only
        rw [if_pos (by simp [hlost])]

/-- A request that the network takes is sent along the redirects. -/
theorem send_eq_follow (h : n.Takes { o with url := o.url.withoutUserinfo }) :
    n.send limit o = follow (n.now + limit.nanoseconds) redirectLimit n
      { o with url := o.url.withoutUserinfo } := by
  obtain ⟨hhost, hheaders, hscheme, hsendable, -⟩ := h
  have hhost' : ¬ (!hasHost o.url) = true := by simpa using show hasHost o.url = true from hhost
  dsimp only at hscheme hsendable
  unfold send
  dsimp only
  rw [if_neg hhost', if_neg (by simpa using hheaders), if_neg]
  simp [hscheme, hsendable]

/-- A request that the network takes arrives, alone, and the reaction to it settles what comes
of it, provided that it is not diverted. -/
theorem send_of_takes (h : n.Takes { o with url := o.url.withoutUserinfo })
    (hdirect : n.Direct limit (n.send limit o).2) :
    ∃ now, n.now ≤ now ∧
      n.send limit o =
        (Outgoing.outcome { o with url := o.url.withoutUserinfo } limit (n.reactionTo 0),
          { n with
            reactions := n.reactions.tail
            arrived := n.arrived ++ [{ o with url := o.url.withoutUserinfo }]
            now := now }) := by
  have hsend : n.send limit o = follow (n.now + limit.nanoseconds) redirectLimit n
      { o with url := o.url.withoutUserinfo } := send_eq_follow h
  rw [hsend] at hdirect ⊢
  refine follow_of_not_diverts 9 h.reached ?_
  obtain ⟨os, hos⟩ := follow_arrives (n.now + limit.nanoseconds) redirectLimit h.reached
  refine hdirect 0 _ ?_
  rw [arrivedSince_eq hos]
  rfl

/-- A request has been handed to the network, and nothing else.  It arrives first if the network
takes it, and alone unless it is redirected; what else arrives has been asked for by a redirect, and
has the whole body or none.  If the network does not take the request, nothing arrives. -/
structure HandsOver (limit : Span) (n : Network) (o : Outgoing) (m : Network) : Prop where
  leads : n.Leads m
  first : n.Takes o → (m.arrivedSince n).head? = some o
  none : ¬ n.Takes o → m.arrivedSince n = []
  alone : n.Direct limit m → (m.arrivedSince n).length ≤ 1
  onward : ∀ i before after, (m.arrivedSince n)[i]? = some before →
    (m.arrivedSince n)[i + 1]? = some after →
    ∃ r, n.reactionTo i = .reply r ∧ redirectTarget? before r = some after.url
  body_cases : ∀ o' ∈ m.arrivedSince n,
    (o'.body = o.body ∧ o'.headers.values "content-type" = o.headers.values "content-type") ∨
    (o'.body = [] ∧ o'.headers.values "content-type" = [])

/-- Sending a request hands it to the network. -/
theorem send_handsOver (n : Network) (limit : Span) (o : Outgoing) :
    n.HandsOver limit { o with url := o.url.withoutUserinfo } (n.send limit o).2 := by
  obtain ⟨os, harrived, hreactions, htrail⟩ := n.send_trail limit o
  obtain ⟨hleads, hsince⟩ := Leads.of_eq harrived hreactions
  have hnone (h : ¬ n.Takes { o with url := o.url.withoutUserinfo }) :
      (n.send limit o).2.arrivedSince n = [] := by
    obtain ⟨e, -, hsend⟩ : ∃ e, e ≠ .timeout ∧ n.send limit o = (.error e, n) :=
      send_of_not_takes h
    rw [hsend, arrivedSince_self]
  refine ⟨hleads, ?_, hnone, ?_, ?_, ?_⟩
  · intro h
    obtain ⟨others, hothers⟩ := follow_arrives (n.now + limit.nanoseconds) redirectLimit h.reached
    rw [send_eq_follow h, arrivedSince_eq hothers]
    rfl
  · intro hdirect
    by_cases h : n.Takes { o with url := o.url.withoutUserinfo }
    · obtain ⟨now, -, hsend⟩ := send_of_takes h hdirect
      have halone : (n.send limit o).2.arrived =
          n.arrived ++ [{ o with url := o.url.withoutUserinfo }] := by rw [hsend]
      rw [arrivedSince_eq halone]
      exact Nat.le_refl 1
    · rw [hnone h]
      exact Nat.zero_le 1
  · intro i before after hbefore hafter
    rw [hsince] at hbefore hafter
    exact htrail.redirected hbefore hafter
  · intro o' ho'
    rw [hsince] at ho'
    exact htrail.body_cases ho'

end Network
end Http
end PatronGateway
