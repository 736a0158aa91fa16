import PatronGateway.Http.Network

/-!
# What arrives when a request is sent

One sending can make several requests arrive: the request itself and, one after the
other, those that redirects ask for.  They form a `Trail` along the reactions of the
network.

* `follow_trail` and `send_trail` say that every sending leaves such a trail and takes
  one reaction for each of its requests.
* `Trail.head?_eq`, `Trail.redirected`, `Trail.values_eq` and `Trail.body_cases` say where the
  requests of a trail go, which header fields they bear and what bodies they have.
-/

namespace PatronGateway
namespace Http

open Cache (Moment)

/-- The values of a name, in the order in which they were given. -/
def Headers.values (hs : Headers) (name : String) : List String :=
  (hs.filter fun h => h.1 == name).map (·.2)

@[simp] theorem Headers.values_append (hs gs : Headers) (name : String) :
    Headers.values (hs ++ gs) name = hs.values name ++ gs.values name := by
  simp [Headers.values]

theorem Headers.values_eq_nil {hs : Headers} {name : String}
    (h : ∀ p ∈ hs, p.1 ≠ name) : hs.values name = [] := by
  simp only [Headers.values, List.map_eq_nil_iff, List.filter_eq_nil_iff, beq_iff_eq]
  exact h

theorem Headers.values_remove {hs : Headers} {name other : String} (h : name ≠ other) :
    Headers.values (hs.remove other) name = hs.values name := by
  unfold Headers.values Headers.remove
  rw [List.filter_filter]
  congr 1
  apply List.filter_congr
  intro p _
  by_cases hp : p.1 = name
  · simp [hp, h]
  · simp [hp]

/-- The header fields of a redirected request are those of the request before it, up to
what is said of its body. -/
theorem Outgoing.values_redirected (o : Outgoing) (status : Nat) (target : Url)
    {name : String} (h : name ≠ "content-type") :
    (o.redirected status target).headers.values name = o.headers.values name := by
  unfold Outgoing.redirected
  split
  · rfl
  · exact Headers.values_remove h

/-- A redirected request has the body of the request before it and the same description of it, or
neither a body nor a description. -/
theorem Outgoing.body_redirected (o : Outgoing) (status : Nat) (target : Url) :
    ((o.redirected status target).body = o.body ∧
      (o.redirected status target).headers.values "content-type" =
        o.headers.values "content-type") ∨
    ((o.redirected status target).body = [] ∧
      (o.redirected status target).headers.values "content-type" = []) := by
  unfold Outgoing.redirected
  split
  · exact Or.inl ⟨rfl, rfl⟩
  · refine Or.inr ⟨rfl, Headers.values_eq_nil fun p hp => ?_⟩
    exact bne_iff_ne.mp (List.mem_filter.mp hp).2

@[simp] theorem Outgoing.url_redirected (o : Outgoing) (status : Nat) (target : Url) :
    (o.redirected status target).url = target := by
  unfold Outgoing.redirected
  split <;> rfl

namespace Network

/-- The reaction to the request that arrives as the given one from now on, counted from
zero. -/
def reactionTo (n : Network) (i : Nat) : Reaction :=
  n.reactions.getD i (.reply .unforeseen)

/-- The requests that have arrived since an earlier state of the network. -/
def arrivedSince (n earlier : Network) : List Outgoing :=
  n.arrived.drop earlier.arrived.length

theorem arrivedSince_eq {n earlier : Network} {os : List Outgoing}
    (h : n.arrived = earlier.arrived ++ os) : n.arrivedSince earlier = os := by
  simp [arrivedSince, h]

/-- An arriving request is noted and takes the next reaction away. -/
theorem arrive_eq (n : Network) (o : Outgoing) :
    n.arrive o = (n.reactionTo 0,
      { n with reactions := n.reactions.tail, arrived := n.arrived ++ [o] }) := by
  obtain ⟨reaches, reactions, arrived, now⟩ := n
  cases reactions with
  | nil => rfl
  | cons r rest => rfl

/-- All that can come of sending along a redirect: nothing arrives, the request is the
last one that arrives, or a redirect of its answer is followed. -/
theorem follow_cases (deadline : Moment) (redirectsLeft : Nat) (n : Network) (o : Outgoing) :
    (follow deadline redirectsLeft n o).2 = n ∨
    ((follow deadline redirectsLeft n o).2.arrived = n.arrived ++ [o] ∧
      (follow deadline redirectsLeft n o).2.reactions = n.reactions.tail) ∨
    ∃ left r target, ∃ m : Network,
      redirectsLeft = left + 1 ∧ n.reactionTo 0 = .reply r ∧
      redirectTarget? o r = some target ∧
      m.arrived = n.arrived ++ [o] ∧ m.reactions = n.reactions.tail ∧
      follow deadline redirectsLeft n o =
        follow deadline left m (o.redirected r.status target) := by
  generalize hrun : follow deadline redirectsLeft n o = run
  rw [follow.eq_def] at hrun
  dsimp only at hrun
  split at hrun
  · subst hrun
    exact Or.inl rfl
  · rw [arrive_eq] at hrun
    cases hreaction : n.reactionTo 0 with
    | close =>
        rw [hreaction] at hrun
        subst hrun
        exact Or.inr (Or.inl ⟨rfl, rfl⟩)
    | hang ns =>
        rw [hreaction] at hrun
        subst hrun
        exact Or.inr (Or.inl ⟨rfl, rfl⟩)
    | reply r =>
        rw [hreaction] at hrun
        dsimp only at hrun
        split at hrun
        · subst hrun
          exact Or.inr (Or.inl ⟨rfl, rfl⟩)
        · cases htarget : redirectTarget? o r with
          | none =>
              rw [htarget] at hrun
              subst hrun
              exact Or.inr (Or.inl ⟨rfl, rfl⟩)
          | some target =>
              rw [htarget] at hrun
              cases redirectsLeft with
              | zero =>
                  subst hrun
                  exact Or.inr (Or.inl ⟨rfl, rfl⟩)
              | succ left =>
                  dsimp only at hrun
                  split at hrun
                  · exact Or.inr (Or.inr
                      ⟨left, r, target, _, rfl, rfl, htarget, rfl, rfl, hrun.symm⟩)
                  · subst hrun
                    exact Or.inr (Or.inl ⟨rfl, rfl⟩)

end Network

/-- The requests that arrive when a request is sent to a network with given reactions.
Behind a request whose answer is a redirect there may stand what the redirect asks for;
a trail may break off anywhere. -/
inductive Trail : List Reaction → Outgoing → List Outgoing → Prop
  | none (reactions : List Reaction) (o : Outgoing) : Trail reactions o []
  | last (reactions : List Reaction) (o : Outgoing) : Trail reactions o [o]
  | onward {reactions : List Reaction} {o : Outgoing} {r : Reply} {target : Url}
      {os : List Outgoing}
      (answered : reactions.getD 0 (.reply .unforeseen) = .reply r)
      (points : redirectTarget? o r = some target)
      (rest : Trail reactions.tail (o.redirected r.status target) os) :
      Trail reactions o (o :: os)

namespace Trail

variable {reactions : List Reaction} {o : Outgoing} {os : List Outgoing}

/-- A trail begins with the request that is sent. -/
theorem head?_eq (h : Trail reactions o os) {first : Outgoing}
    (hfirst : os.head? = some first) : first = o := by
  cases h with
  | none => cases hfirst
  | last => exact (Option.some.inj hfirst).symm
  | onward _ _ _ => exact (Option.some.inj hfirst).symm

/-- Every request of a trail but the first one goes where the redirect that answers the
one before it points to. -/
theorem redirected (h : Trail reactions o os) {i : Nat} {before after : Outgoing}
    (hbefore : os[i]? = some before) (hafter : os[i + 1]? = some after) :
    ∃ r, reactions.getD i (.reply .unforeseen) = .reply r ∧
      redirectTarget? before r = some after.url := by
  -- the place of the redirect moves along with the trail, hence the general `i`
  induction h generalizing i with
  | none => simp at hbefore
  | last => simp at hafter
  | @onward reactions o r target os answered points rest ih =>
      cases i with
      | zero =>
          have hsame : o = before := by simpa using hbefore
          have hhead : os.head? = some after := by
            rw [List.head?_eq_getElem?]
            simpa using hafter
          have hnext : after.url = target := by
            rw [rest.head?_eq hhead, Outgoing.url_redirected]
          exact ⟨r, answered, by rw [← hsame, hnext, points]⟩
      | succ i =>
          obtain ⟨r', hreaction, hpoints⟩ := ih (by simpa using hbefore) (by simpa using hafter)
          refine ⟨r', ?_, hpoints⟩
          cases reactions with
          | nil => simpa using hreaction
          | cons _ reactions => simpa using hreaction

/-- All requests of a trail bear the same values of every header field but the one that
describes the body. -/
theorem values_eq (h : Trail reactions o os) {name : String} (hname : name ≠ "content-type")
    {o' : Outgoing} (hmem : o' ∈ os) : o'.headers.values name = o.headers.values name := by
  induction h with
  | none => cases hmem
  | last => rw [List.mem_singleton.mp hmem]
  | @onward reactions o r target os answered points rest ih =>
      rcases List.mem_cons.mp hmem with hsame | htail
      · rw [hsame]
      · rw [ih htail, Outgoing.values_redirected _ _ _ hname]

/-- The requests of a trail have the body of the first one and the same description of it, or
neither a body nor a description. -/
theorem body_cases (h : Trail reactions o os) {o' : Outgoing} (hmem : o' ∈ os) :
    (o'.body = o.body ∧
      o'.headers.values "content-type" = o.headers.values "content-type") ∨
    (o'.body = [] ∧ o'.headers.values "content-type" = []) := by
  induction h with
  | none => cases hmem
  | last =>
      rw [List.mem_singleton.mp hmem]
      exact Or.inl ⟨rfl, rfl⟩
  | @onward reactions o r target os answered points rest ih =>
      rcases List.mem_cons.mp hmem with rfl | htail
      · exact Or.inl ⟨rfl, rfl⟩
      · rcases ih htail with ⟨hbody, htype⟩ | hnone
        · rw [hbody, htype]
          exact Outgoing.body_redirected _ _ _
        · exact Or.inr hnone

end Trail

namespace Network

/-- Following redirects leaves a trail and takes a reaction for each of its requests. -/
theorem follow_trail (deadline : Moment) (redirectsLeft : Nat) (n : Network) (o : Outgoing) :
    ∃ os, (follow deadline redirectsLeft n o).2.arrived = n.arrived ++ os ∧
      (follow deadline redirectsLeft n o).2.reactions = n.reactions.drop os.length ∧
      Trail n.reactions o os := by
  -- the induction is on the redirects that may still be followed; what is left of the
  -- trail starts from the next reaction
  induction redirectsLeft generalizing n o with
  | zero =>
      rcases follow_cases deadline 0 n o with hnone | ⟨harrived, hreactions⟩ |
        ⟨_, _, _, _, hleft, _⟩
      · exact ⟨[], by simp [hnone], by simp [hnone], .none _ _⟩
      · exact ⟨[o], harrived, by simpa using hreactions, .last _ _⟩
      · cases hleft
  | succ left ih =>
      rcases follow_cases deadline (left + 1) n o with hnone | ⟨harrived, hreactions⟩ |
        ⟨_, r, target, m, hleft, hreply, hpoints, harrived, hreactions, hfollow⟩
      · exact ⟨[], by simp [hnone], by simp [hnone], .none _ _⟩
      · exact ⟨[o], harrived, by simpa using hreactions, .last _ _⟩
      · obtain rfl := Nat.succ.inj hleft
        obtain ⟨os, hos, hrest, htrail⟩ := ih m (o.redirected r.status target)
        rw [hreactions] at hrest htrail
        refine ⟨o :: os, ?_, ?_, .onward hreply hpoints htrail⟩
        · rw [hfollow, hos, harrived]
          simp
        · rw [hfollow, hrest]
          simp

/-- Sending a request leaves a trail of requests that are made to its URL without the
name and the password. -/
theorem send_trail (n : Network) (limit : Time.Span) (o : Outgoing) :
    ∃ os, (n.send limit o).2.arrived = n.arrived ++ os ∧
      (n.send limit o).2.reactions = n.reactions.drop os.length ∧
      Trail n.reactions { o with url := o.url.withoutUserinfo } os := by
  have hnone : ∃ os, n.arrived = n.arrived ++ os ∧ n.reactions = n.reactions.drop os.length ∧
      Trail n.reactions { o with url := o.url.withoutUserinfo } os :=
    ⟨[], by simp, rfl, .none _ _⟩
  unfold send
  dsimp only
  split
  · exact hnone
  · split
    · exact hnone
    · split
      · exact hnone
      · exact follow_trail _ _ _ _

end Network
end Http
end PatronGateway
