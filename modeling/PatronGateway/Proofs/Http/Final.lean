import PatronGateway.Proofs.Http.Trail

/-!
# The answer at which a sending ends

A request may be redirected some times before an answer comes that is no redirect.  That answer
is the one that the sender gets, as it arrives; an answer that asks for another request is not.

* `Network.Ends` says at which answer a sending ends, along the redirects that are followed.
* `Network.follow_eq_ok_iff` and `Network.send_eq_ok_iff` say that a sending has an answer just
  where it ends at one, and which one it is.
-/

namespace PatronGateway
namespace Http
namespace Network

open Cache (Moment)
open Time (Span)

/-- A sending ends at the answer to its request, if that comes in time and is no redirect that
can be followed; otherwise it ends where the redirected request ends.  A redirect at which the
sender gives up, because of where it points or because there have been too many, is not the end
of any sending. -/
inductive Ends (deadline : Moment) : Nat → Network → Outgoing → Reply → Network → Prop
  | here {left : Nat} {n : Network} {o : Outgoing} {r : Reply}
      (hreached : n.reaches o.url = true) (hreply : n.reactionTo 0 = .reply r)
      (htime : n.now + r.delay ≤ deadline)
      (hstays : redirectTarget? o r = none) :
      Ends deadline left n o r ((n.arrive o).2.advance r.delay)
  | onward {left : Nat} {n m : Network} {o : Outgoing} {r last : Reply} {target : Url}
      (hreached : n.reaches o.url = true) (hreply : n.reactionTo 0 = .reply r)
      (htime : n.now + r.delay ≤ deadline)
      (hpoints : redirectTarget? o r = some target) (hweb : isWebScheme target.scheme = true)
      (hends : Ends deadline left ((n.arrive o).2.advance r.delay)
        (o.redirected r.status target) last m) :
      Ends deadline (left + 1) n o last m

section

variable {deadline : Moment} {left : Nat} {n m : Network} {o : Outgoing} {r : Reply}
  {d : Delivery}

/-- What becomes of an answer in time depends on where it points. -/
theorem follow_of_reply (hreached : n.reaches o.url = true) (hreply : n.reactionTo 0 = .reply r)
    (htime : n.now + r.delay ≤ deadline) :
    follow deadline left n o =
      match redirectTarget? o r with
      | none => (.ok r.deliver, (n.arrive o).2.advance r.delay)
      | some target =>
        match left with
        | 0 => (.error (.redirects o.url.text), (n.arrive o).2.advance r.delay)
        | left + 1 =>
          if isWebScheme target.scheme then
            follow deadline left ((n.arrive o).2.advance r.delay) (o.redirected r.status target)
          else (.error (.badUrl target.text), (n.arrive o).2.advance r.delay) := by
  rw [follow.eq_def]
  dsimp only
  rw [if_neg (by simp [hreached]), arrive_eq, hreply]
  dsimp only
  refine (if_neg (Nat.not_lt.mpr htime)).trans ?_
  cases redirectTarget? o r with
  | none => rfl
  | some target => cases left <;> rfl

/-- A sending that has an answer reaches the place it goes to and is answered in time at first.
That is its answer, or a redirect that is followed. -/
theorem follow_eq_ok_cases (h : follow deadline left n o = (.ok d, m)) :
    n.reaches o.url = true ∧ ∃ r, n.reactionTo 0 = .reply r ∧ n.now + r.delay ≤ deadline ∧
      ((redirectTarget? o r = none ∧ d = r.deliver ∧ m = (n.arrive o).2.advance r.delay) ∨
      ∃ less target, left = less + 1 ∧ redirectTarget? o r = some target ∧
        isWebScheme target.scheme = true ∧
        follow deadline less ((n.arrive o).2.advance r.delay) (o.redirected r.status target) =
          (.ok d, m)) := by
  rw [follow.eq_def] at h
  dsimp only at h
  split at h
  · cases h
  rename_i hreached
  refine ⟨by simpa using hreached, ?_⟩
  rw [arrive_eq] at h ⊢
  cases hreaction : n.reactionTo 0 with
  | close =>
      rw [hreaction] at h
      cases h
  | hang nanoseconds =>
      rw [hreaction] at h
      cases h
  | reply r =>
      rw [hreaction] at h
      dsimp only at h
      split at h
      · cases h
      rename_i htime
      refine ⟨r, rfl, Nat.le_of_not_lt htime, ?_⟩
      cases hpoints : redirectTarget? o r with
      | none =>
          rw [hpoints] at h
          obtain ⟨hd, hm⟩ := Prod.mk.inj h
          exact Or.inl ⟨rfl, (Except.ok.inj hd).symm, hm.symm⟩
      | some target =>
          rw [hpoints] at h
          cases left with
          | zero => cases h
          | succ less =>
              dsimp only at h
              split at h
              · rename_i hweb
                exact Or.inr ⟨less, target, rfl, rfl, hweb, h⟩
              · cases h

theorem Ends.follow_eq (h : Ends deadline left n o r m) :
    follow deadline left n o = (.ok r.deliver, m) := by
  induction h with
  | here hreached hreply htime hstays =>
      rw [follow_of_reply hreached hreply htime, hstays]
  | onward hreached hreply htime hpoints hweb _ ih =>
      rw [follow_of_reply hreached hreply htime, hpoints]
      dsimp only
      rw [if_pos hweb, ih]

/-- A sending along redirects has the answer at which it ends. -/
theorem follow_eq_ok_iff :
    follow deadline left n o = (.ok d, m) ↔
      ∃ last, Ends deadline left n o last m ∧ d = last.deliver := by
  constructor
  · intro h
    -- the induction is on the redirects that may still be followed
    induction left generalizing n o with
    | zero =>
        obtain ⟨hreached, r, hreply, htime, ⟨hstays, rfl, rfl⟩ | ⟨_, _, hleft, -⟩⟩ :=
          follow_eq_ok_cases h
        · exact ⟨r, .here hreached hreply htime hstays, rfl⟩
        · cases hleft
    | succ left ih =>
        obtain ⟨hreached, r, hreply, htime, ⟨hstays, rfl, rfl⟩ |
          ⟨_, target, hleft, hpoints, hweb, hrest⟩⟩ := follow_eq_ok_cases h
        · exact ⟨r, .here hreached hreply htime hstays, rfl⟩
        · obtain rfl := Nat.succ.inj hleft
          obtain ⟨last, hends, hd⟩ := ih hrest
          exact ⟨last, .onward hreached hreply htime hpoints hweb hends, hd⟩
  · rintro ⟨last, hends, rfl⟩
    exact hends.follow_eq

end

/-- A request under a limit on time is answered: it can be built, and its sending ends at an
answer. -/
structure Answers (limit : Span) (n : Network) (o : Outgoing) (r : Reply) (m : Network) :
    Prop where
  host : hasHost o.url = true
  headers : (o.headers.all fun h => isValue h.2) = true
  scheme : isWebScheme o.url.withoutUserinfo.scheme = true
  sendable : isSendable o.url.withoutUserinfo = true
  ends : Ends (n.now + limit.nanoseconds) redirectLimit n
    { o with url := o.url.withoutUserinfo } r m

/-- A request has the answer that it is answered with, as that arrives. -/
theorem send_eq_ok_iff {limit : Span} {n m : Network} {o : Outgoing} {d : Delivery} :
    n.send limit o = (.ok d, m) ↔ ∃ r, Answers limit n o r m ∧ d = r.deliver := by
  unfold send
  dsimp only
  constructor
  · intro h
    split at h
    · cases h
    · rename_i hhost
      split at h
      · cases h
      · rename_i hheaders
        split at h
        · cases h
        · rename_i hurl
          obtain ⟨r, hends, hd⟩ := follow_eq_ok_iff.mp h
          have hurl : isWebScheme o.url.withoutUserinfo.scheme = true ∧
              isSendable o.url.withoutUserinfo = true := by simpa using hurl
          exact ⟨r, ⟨by simpa using hhost, by simpa using hheaders, hurl.1, hurl.2, hends⟩, hd⟩
  · rintro ⟨r, ⟨hhost, hheaders, hscheme, hsendable, hends⟩, rfl⟩
    rw [if_neg (by simp [hhost]), if_neg (by simp [hheaders]),
      if_neg (by simp [hscheme, hsendable])]
    exact hends.follow_eq

end Network
end Http
end PatronGateway
