import PatronGateway.Proofs.Cache.Content
import PatronGateway.Proofs.Hold.Protocol
import PatronGateway.Proofs.Patron.Transparency

/-!
# What a resolution does

A resolution asks the backend once or not at all, and it leaves the cache either as the others
leave it or with one entry more: the id that it gives out.

* `resolve_cases` says when the backend is asked, and for whom.
* `settle_cases` says what becomes of an answer, by what the cache knows when it comes.
* `resolution_effect` puts that together for every cache that a resolver can have.
-/

namespace PatronGateway
namespace Patron

open Cache (IdentitySlot Lookup Moment Slot)
open Time (Span)

/-- A lookup fails under a limit: it gives an error in time, or it comes too late. -/
def FailsWith (call : Backend.Call String) (limit : Span) (e : Backend.Error) : Prop :=
  (call.Punctual limit ∧ call.outcome = .error e) ∨ (¬ call.Punctual limit ∧ e = .timeout)

theorem failsWith_iff {call : Backend.Call String} {limit : Span} {e : Backend.Error} :
    FailsWith call limit e ↔ call.result limit = .error e := by
  unfold FailsWith
  by_cases h : call.Punctual limit
  · rw [Backend.Call.result_of_punctual h]
    simp [h]
  · rw [Backend.Call.result_of_late h]
    simp [h, eq_comm]

namespace IdentityState

/-- No patron has two entries in the cache. -/
def Distinct (s : IdentityState) : Prop := Slot.Distinct s.slot

/-- Two resolvers differ at most in what their caches have counted. -/
structure Alike (s s' : IdentityState) : Prop where
  slot : Slot.Alike s.slot s'.slot
  now_eq : s.now = s'.now

theorem get_alike (s : IdentityState) (tenant externalId : String) :
    (s.get tenant externalId).2.Alike s :=
  ⟨Slot.get_alike s.slot s.now _, rfl⟩

namespace Alike

variable {s s' : IdentityState}

theorem advance (h : s.Alike s') (nanoseconds : Nat) :
    (s.advance nanoseconds).Alike (s'.advance nanoseconds) :=
  ⟨h.slot, congrArg (· + nanoseconds) h.now_eq⟩

theorem put (h : s.Alike s') (w : Write) : (s.put w).2.Alike (s'.put w).2 where
  slot := by
    have hputs := Slot.Alike.put h.slot s.now (Cache.identityKey w.tenant w.externalId)
      w.internalId
    nth_rewrite 2 [h.now_eq] at hputs
    exact hputs
  now_eq := h.now_eq

theorem await (h : s.Alike s') (nanoseconds : Nat) (writes : List (Nat × Write)) :
    (s.await nanoseconds writes).Alike (s'.await nanoseconds writes) := by
  induction writes generalizing s s' nanoseconds with
  | nil => exact h.advance nanoseconds
  | cons first rest ih =>
      obtain ⟨pause, w⟩ := first
      unfold IdentityState.await
      by_cases hpause : pause ≤ nanoseconds
      · rw [if_pos hpause, if_pos hpause]
        exact ih ((h.advance pause).put w) _
      · rw [if_neg hpause, if_neg hpause]
        exact h.advance nanoseconds

end Alike

namespace Distinct

variable {s : IdentityState}

theorem start (now : Moment) : (start now).Distinct := by
  intro c hc
  cases hc

theorem get (h : s.Distinct) (tenant externalId : String) :
    (s.get tenant externalId).2.Distinct :=
  Slot.Distinct.get h s.now _

theorem put (h : s.Distinct) (w : Write) : (s.put w).2.Distinct :=
  Slot.Distinct.put h s.now _ w.internalId

theorem advance (h : s.Distinct) (nanoseconds : Nat) : (s.advance nanoseconds).Distinct := h

theorem await (h : s.Distinct) (nanoseconds : Nat) (writes : List (Nat × Write)) :
    (s.await nanoseconds writes).Distinct := by
  induction writes generalizing s nanoseconds with
  | nil => exact h.advance nanoseconds
  | cons first rest ih =>
      obtain ⟨pause, w⟩ := first
      unfold IdentityState.await
      by_cases hpause : pause ≤ nanoseconds
      · rw [if_pos hpause]
        exact ih ((h.advance pause).put w) _
      · rw [if_neg hpause]
        exact h.advance nanoseconds

theorem resolve (h : s.Distinct) (limit : Span) (tenant externalId : String)
    (course : LookupCourse) : (s.resolve limit tenant externalId course).state.Distinct := by
  rcases s.consult_cases tenant externalId with ⟨e, hconsult⟩ | ⟨id, -, hconsult⟩ | hconsult
  · unfold IdentityState.resolve
    rw [hconsult]
    exact h
  · unfold IdentityState.resolve
    rw [hconsult]
    exact h.get tenant externalId
  · have hasked := (h.get tenant externalId).await (course.call.elapsed limit) course.writes
    rw [resolve_of_unknown hconsult]
    show Slot.Distinct (settle _ _ tenant externalId _).2
    rw [settle_slot]
    cases course.call.result limit with
    | error e => exact hasked
    | ok id => exact hasked.put ⟨tenant, externalId, some id⟩

theorem step (h : s.Distinct) (limit : Span) (e : IdentityEvent) : (s.step limit e).Distinct := by
  cases e with
  | resolve tenant externalId course => exact h.resolve limit tenant externalId course
  | put w => exact h.put w
  | get tenant externalId => exact h.get tenant externalId
  | install settings => exact Slot.Distinct.install s.slot settings
  | advance nanoseconds => exact h.advance nanoseconds

theorem run (h : s.Distinct) (limit : Span) (history : List IdentityEvent) :
    (s.run limit history).Distinct := by
  induction history generalizing s with
  | nil => exact h
  | cons e rest ih => exact ih (h.step limit e)

end Distinct

theorem now_await (s : IdentityState) (nanoseconds : Nat) (writes : List (Nat × Write)) :
    (s.await nanoseconds writes).now = s.now + nanoseconds := by
  induction writes generalizing s nanoseconds with
  | nil => rfl
  | cons first rest ih =>
      obtain ⟨pause, w⟩ := first
      unfold IdentityState.await
      by_cases hpause : pause ≤ nanoseconds
      · rw [if_pos hpause, ih]
        show s.now + pause + (nanoseconds - pause) = s.now + nanoseconds
        rw [Nat.add_assoc, Nat.add_sub_cancel' hpause]
      · rw [if_neg hpause]
        rfl

/-- What becomes of an answer: it is given out and put into the cache, if the cache knows
nothing of the patron; an id that the cache knows by now is given out instead, and the knowledge
that there is no such patron is left as it is. -/
theorem settle_cases (s : IdentityState) (tenant externalId answer : String) :
    let settled := settle s.slot s.now tenant externalId (.ok answer)
    ((s.get tenant externalId).1 = .ok .miss ∧ settled =
      (.ok answer, (s.put ⟨tenant, externalId, some answer⟩).2.slot)) ∨
    (∃ id, (s.get tenant externalId).1 = .ok (.hit id) ∧ settled = (.ok id, s.slot)) ∨
    ((s.get tenant externalId).1 = .ok .knownAbsent ∧ settled = (.ok answer, s.slot)) ∨
    (s.slot.cache = none ∧ settled = (.ok answer, s.slot)) := by
  obtain ⟨⟨name, cache⟩, now⟩ := s
  cases cache with
  | none => exact Or.inr (Or.inr (Or.inr ⟨rfl, rfl⟩))
  | some c =>
      let key := Cache.identityKey tenant externalId
      have hsettled : settle ⟨name, some c⟩ now tenant externalId (.ok answer) =
          (.ok ((c.put now key (some answer)).1.value.getD answer),
            ⟨name, some (c.put now key (some answer)).2⟩) := rfl
      cases hlive : c.live? now key with
      | none =>
          have hnew : (c.put now key (some answer)).1.value = some answer := by
            unfold Cache.Bounded.put
            rw [hlive]
          rw [hnew] at hsettled
          exact Or.inl ⟨congrArg Except.ok (Cache.Bounded.peek_eq_miss_iff.mpr hlive), hsettled⟩
      | some e =>
          rw [Cache.Bounded.put_of_live? hlive] at hsettled
          refine Or.inr ?_
          cases hvalue : e.value with
          | some id =>
              rw [hvalue] at hsettled
              have hhit := Cache.Bounded.peek_eq_hit_iff.mpr ⟨e, hlive, hvalue⟩
              exact Or.inl ⟨id, congrArg Except.ok hhit, hsettled⟩
          | none =>
              rw [hvalue] at hsettled
              have habsent := Cache.Bounded.peek_eq_knownAbsent_iff.mpr ⟨e, hlive, hvalue⟩
              exact Or.inr (Or.inl ⟨congrArg Except.ok habsent, hsettled⟩)

/-- An answer is never turned into an error. -/
theorem exists_settle_ok (s : IdentityState) (tenant externalId answer : String) :
    ∃ id, (settle s.slot s.now tenant externalId (.ok answer)).1 = .ok id := by
  rcases s.settle_cases tenant externalId answer with
    ⟨-, hsettled⟩ | ⟨id, -, hsettled⟩ | ⟨-, hsettled⟩ | ⟨-, hsettled⟩
  · exact ⟨answer, congrArg Prod.fst hsettled⟩
  · exact ⟨id, congrArg Prod.fst hsettled⟩
  · exact ⟨answer, congrArg Prod.fst hsettled⟩
  · exact ⟨answer, congrArg Prod.fst hsettled⟩

/-- What others leave is the same whether the cache has been looked up before or not. -/
theorem undergo_get_alike (s : IdentityState) (limit : Span) (tenant externalId : String)
    (course : LookupCourse) :
    ((s.get tenant externalId).2.undergo limit course).Alike (s.undergo limit course) :=
  (s.get_alike tenant externalId).await _ _

/-- All that a resolution can be: the backend is not asked, because the external id is blank or
the cache knows the patron, and nothing but a counter changes; or it is asked once. -/
theorem resolve_cases (s : IdentityState) (limit : Span) (tenant externalId : String)
    (course : LookupCourse) :
    let r := s.resolve limit tenant externalId course
    let known := ∃ id, (s.get tenant externalId).1 = .ok (.hit id)
    ((Text.isBlank externalId = true ∨ known) ∧ r.lookups = [] ∧ r.state.Alike s ∧
      ∀ id, r.result = .ok id → (s.get tenant externalId).1 = .ok (.hit id)) ∨
    (¬ (Text.isBlank externalId = true ∨ known) ∧ r.lookups = [(tenant, externalId)] ∧
      let asked := (s.get tenant externalId).2.undergo limit course
      let settled := settle asked.slot asked.now tenant externalId (course.call.result limit)
      r.result = settled.1 ∧ r.state = { asked with slot := settled.2 }) := by
  intro r known
  by_cases hblank : Text.isBlank externalId = true
  · have hr : r = ⟨.error (.invalid "external patron id is required"), [], s⟩ := by
      show s.resolve limit tenant externalId course = _
      unfold resolve
      rw [consult_of_blank hblank]
    refine Or.inl ⟨Or.inl hblank, ?_⟩
    rw [hr]
    exact ⟨rfl, ⟨Slot.Alike.refl s.slot, rfl⟩, fun id h => by cases h⟩
  · rcases consult_of_not_blank hblank s tenant with ⟨found, hhit, hconsult⟩ | ⟨hunknown, hconsult⟩
    · have hr : r = ⟨.ok found, [], (s.get tenant externalId).2⟩ := by
        show s.resolve limit tenant externalId course = _
        unfold resolve
        rw [hconsult]
        rfl
      refine Or.inl ⟨Or.inr ⟨found, hhit⟩, ?_⟩
      rw [hr]
      refine ⟨rfl, s.get_alike tenant externalId, fun id h => ?_⟩
      rw [hhit, Except.ok.inj h]
    · refine Or.inr ⟨?_, ?_⟩
      · rintro (hblank' | ⟨id, hhit⟩)
        · exact hblank hblank'
        · exact hunknown id hhit
      · have hr : r = _ := resolve_of_unknown hconsult course
        rw [hr]
        exact ⟨rfl, rfl, rfl⟩

/-- Where the cache knows that there is no such patron, an answer is given out and the cache is
left as it is. -/
theorem settle_of_knownAbsent {s : IdentityState} {tenant externalId : String}
    (h : (s.get tenant externalId).1 = .ok .knownAbsent) (answer : String) :
    settle s.slot s.now tenant externalId (.ok answer) = (.ok answer, s.slot) := by
  rcases s.settle_cases tenant externalId answer with
    ⟨hmiss, -⟩ | ⟨known, hhit, -⟩ | ⟨-, hsettled⟩ | ⟨-, hsettled⟩
  · rw [h] at hmiss
    cases hmiss
  · rw [h] at hhit
    cases hhit
  · exact hsettled
  · exact hsettled

/-- Elsewhere the cache gives the same id as the resolution, right after an answer has been taken
in. -/
theorem get_settle_of_ne_knownAbsent {s : IdentityState} (hkeys : s.Distinct)
    {tenant externalId answer id : String} {c : Cache.Bounded String String}
    (h : (s.get tenant externalId).1 ≠ .ok .knownAbsent)
    (hid : (settle s.slot s.now tenant externalId (.ok answer)).1 = .ok id)
    (hcache : (settle s.slot s.now tenant externalId (.ok answer)).2.cache = some c)
    (hlifetime : 0 < c.presentTtl.nanoseconds) :
    ((settle s.slot s.now tenant externalId (.ok answer)).2.get s.now tenant externalId).1 =
      .ok (.hit id) := by
  rcases s.settle_cases tenant externalId answer with
    ⟨hmiss, hsettled⟩ | ⟨known, hhit, hsettled⟩ | ⟨habsent, -⟩ | ⟨hnone, hsettled⟩
  · rw [hsettled] at hid hcache ⊢
    obtain rfl : answer = id := Except.ok.inj hid
    exact Slot.get_put_of_miss hkeys hmiss hcache hlifetime
  · rw [hsettled] at hid ⊢
    obtain rfl : known = id := Except.ok.inj hid
    exact hhit
  · exact absurd habsent h
  · rw [hsettled, hnone] at hcache
    cases hcache

/-- What a lookup in the cache finds right after an answer has been taken in, told by a resolver
that differs at most in what its cache has counted: the id that has been given out; unless the
cache knew that there is no such patron, which it still does. -/
theorem get_settle_of_alike {s others : IdentityState} (hkeys : s.Distinct)
    (halike : s.Alike others) {tenant externalId answer id : String}
    {c : Cache.Bounded String String}
    (hid : (settle s.slot s.now tenant externalId (.ok answer)).1 = .ok id)
    (hcache : (settle s.slot s.now tenant externalId (.ok answer)).2.cache = some c)
    (hlifetime : 0 < c.presentTtl.nanoseconds) :
    let settled := (settle s.slot s.now tenant externalId (.ok answer)).2
    ((others.get tenant externalId).1 ≠ .ok .knownAbsent →
      (settled.get s.now tenant externalId).1 = .ok (.hit id)) ∧
    ((others.get tenant externalId).1 = .ok .knownAbsent →
      (settled.get s.now tenant externalId).1 = .ok .knownAbsent ∧
        settled.entries? = others.slot.entries? ∧ answer = id) := by
  have habsent_iff : (others.get tenant externalId).1 = .ok .knownAbsent ↔
      (s.get tenant externalId).1 = .ok .knownAbsent := by
    show (others.slot.get others.now tenant externalId).1 = _ ↔ _
    rw [← halike.now_eq]
    exact halike.slot.get_eq_ok_iff.symm
  refine ⟨fun hpresent => ?_, fun habsent => ?_⟩
  · exact get_settle_of_ne_knownAbsent hkeys (fun habsent => hpresent (habsent_iff.mpr habsent))
      hid hcache hlifetime
  · have habsent := habsent_iff.mp habsent
    rw [settle_of_knownAbsent habsent] at hid ⊢
    exact ⟨habsent, halike.slot.entries?_eq, Except.ok.inj hid⟩

/-- What one resolution does, whatever a resolver has gone through, with a cache or without,
and whatever others write while the backend is asked.

The backend is asked just if the external id is not blank and the cache gives no id for it, and
then once, for this tenant and external id; the clock moves on only then, by what the lookup
takes or the limit allows.  A lookup that fails leaves the entries as the others leave them, and
the error says whether there is no such patron, or no answer in time, or something else.  One
that succeeds gives an id, which a lookup in the cache then gives as well, if values live at all;
unless the cache knows that there is no such patron, which then stays, and the id is the answer of
the backend. -/
theorem resolution_effect (limit : Span) (now : Moment) (history : List IdentityEvent)
    (tenant externalId : String) (course : LookupCourse) :
    let s := (start now).run limit history
    let r := s.resolve limit tenant externalId course
    let others := s.undergo limit course
    (r.lookups = [] ↔ Text.isBlank externalId = true ∨
      ∃ id, (s.get tenant externalId).1 = .ok (.hit id)) ∧
    (r.lookups = [] → r.state.now = s.now ∧ r.state.slot.entries? = s.slot.entries?) ∧
    (r.lookups ≠ [] → r.lookups = [(tenant, externalId)] ∧
      r.state.now = s.now + min course.call.delay limit.nanoseconds) ∧
    (r.lookups ≠ [] → ∀ e, FailsWith course.call limit e →
      r.result = .error (match e with
        | .notFound => .patronNotFound externalId
        | .timeout => .timeout "patron lookup"
        | e => .lookupFailed e.message) ∧
      r.state.slot.entries? = others.slot.entries?) ∧
    (course.writes = [] → others.slot.entries? = s.slot.entries?) ∧
    (r.lookups ≠ [] → (∀ e, ¬ FailsWith course.call limit e) → ∃ id, r.result = .ok id) ∧
    (∀ id c, r.result = .ok id → r.state.slot.cache = some c → 0 < c.presentTtl.nanoseconds →
      let knownAbsent := r.lookups ≠ [] ∧ (others.get tenant externalId).1 = .ok .knownAbsent
      (¬ knownAbsent → (r.state.get tenant externalId).1 = .ok (.hit id)) ∧
      (knownAbsent → (r.state.get tenant externalId).1 = .ok .knownAbsent ∧
        r.state.slot.entries? = others.slot.entries? ∧
        course.call.Punctual limit ∧ course.call.outcome = .ok id)) := by
  intro s r others
  have hdistinct : s.Distinct := (Distinct.start now).run limit history
  have halone : course.writes = [] → others.slot.entries? = s.slot.entries? := by
    intro hwrites
    show (s.await _ course.writes).slot.entries? = _
    rw [hwrites]
    rfl
  rcases s.resolve_cases limit tenant externalId course with
    ⟨hknown, hlookups, halike, hresult⟩ | ⟨hunknown, hlookups, hresult, hstate⟩
  · -- the backend is not asked
    have hhit : ∀ id, r.result = .ok id → (r.state.get tenant externalId).1 = .ok (.hit id) := by
      intro id hid
      have hfound := halike.slot.get_eq_ok_iff.mpr (hresult id hid)
      rw [← halike.now_eq] at hfound
      exact hfound
    refine ⟨iff_of_true hlookups hknown, fun _ => ⟨halike.now_eq, halike.slot.entries?_eq⟩,
      fun hasked => absurd hlookups hasked, fun hasked => absurd hlookups hasked, halone,
      fun hasked => absurd hlookups hasked, fun id c hid _ _ => ⟨fun _ => hhit id hid, ?_⟩⟩
    rintro ⟨hasked, -⟩
    exact absurd hlookups hasked
  · -- the backend is asked
    change r.lookups = _ at hlookups
    change r.result = _ at hresult
    change r.state = _ at hstate
    set asked := (s.get tenant externalId).2.undergo limit course
    have hasked : r.lookups ≠ [] := by simp [hlookups]
    have halike : asked.Alike others := s.undergo_get_alike limit tenant externalId course
    have hnow : asked.now = s.now + min course.call.delay limit.nanoseconds := now_await _ _ _
    have hkeys : asked.Distinct := (hdistinct.get tenant externalId).await _ _
    refine ⟨iff_of_false hasked hunknown, fun hsilent => absurd hsilent hasked,
      fun _ => ⟨hlookups, by rw [hstate, hnow]⟩, ?_, halone, ?_, ?_⟩
    · intro _ e hfails
      rw [hresult, hstate, failsWith_iff.mp hfails]
      refine ⟨?_, halike.slot.entries?_eq⟩
      cases e <;> rfl
    · intro _ hsucceeds
      cases hanswer : course.call.result limit with
      | error e => exact absurd (failsWith_iff.mpr hanswer) (hsucceeds e)
      | ok answer =>
          rw [hresult, hanswer]
          exact asked.exists_settle_ok tenant externalId answer
    · intro id c hid hcache hlifetime
      cases hanswer : course.call.result limit with
      | error e =>
          rw [hresult, hanswer] at hid
          cases hid
      | ok answer =>
          rw [hresult, hanswer] at hid
          rw [hstate, hanswer] at hcache ⊢
          obtain ⟨hpresent, habsent⟩ := get_settle_of_alike hkeys halike hid hcache hlifetime
          refine ⟨fun hnot => hpresent fun hknown => hnot ⟨hasked, hknown⟩, ?_⟩
          rintro ⟨-, hknown⟩
          obtain ⟨hget, hentries, rfl⟩ := habsent hknown
          exact ⟨hget, hentries, Backend.Call.result_eq_ok_iff.mp hanswer⟩

end IdentityState
end Patron
end PatronGateway
