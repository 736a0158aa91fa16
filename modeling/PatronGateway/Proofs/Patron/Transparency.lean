import PatronGateway.Proofs.Patron.Provenance

/-!
# The cache of patrons does not show

Where the backend always gives the same answer for a patron, and nobody but the resolver
writes into its cache, a resolution comes out as it would without any cache.  Tenants and
external ids may be mixed at will: what is kept for one patron never answers for another.

* `Faithful` is the invariant: every note of the ledger is the answer of the backend for the
  patron of the note.  `Faithful.enter` keeps it over a step and `faithful_ledger` over a
  whole history.
* `resolution_eq_uncached` compares a resolution after any history with one that has no cache.
-/

namespace PatronGateway
namespace Patron

open Cache (IdentitySlot Moment)
open Time (Span)

/-- What can happen to a resolver whose cache nobody else writes into. -/
inductive SoleEvent where
  | resolve (tenant externalId : String)
  | get (tenant externalId : String)
  | install (settings : Cache.Settings)
  | advance (nanoseconds : Nat)

/-- The undisturbed course of a lookup. -/
def LookupCourse.ofCall (call : Backend.Call String) : LookupCourse := ⟨call, []⟩

/-- The event, where the patron settles the course of every lookup. -/
def SoleEvent.toEvent (script : String → String → Backend.Call String) :
    SoleEvent → IdentityEvent
  | resolve tenant externalId => .resolve tenant externalId (.ofCall (script tenant externalId))
  | get tenant externalId => .get tenant externalId
  | install settings => .install settings
  | advance nanoseconds => .advance nanoseconds

namespace IdentityState

/-- Every note says what the backend answers for the patron of the note. -/
def Faithful (script : String → String → Backend.Call String) (limit : Span)
    (notes : List Note) : Prop :=
  ∀ n ∈ notes, ∃ id, n.write.internalId = some id ∧
    (script n.write.tenant n.write.externalId).result limit = .ok id

section

variable {script : String → String → Backend.Call String} {limit : Span}

/-- Nobody writes during an undisturbed lookup. -/
theorem meanwhile_ofCall (s : IdentityState) (tenant externalId : String)
    (call : Backend.Call String) :
    s.meanwhile limit tenant externalId (.ofCall call) = [] := by
  unfold meanwhile
  split <;> rfl

/-- The only note of a resolution is the answer of the backend. -/
theorem eq_of_mem_ownNotes {s : IdentityState} {tenant externalId : String}
    {course : LookupCourse} {n : Note} (h : n ∈ s.ownNotes limit tenant externalId course) :
    ∃ id, n.write = ⟨tenant, externalId, some id⟩ ∧ course.call.result limit = .ok id := by
  unfold ownNotes at h
  split at h
  · rename_i slot id hconsult hanswer
    unfold noteOf at h
    split at h
    · rw [List.mem_singleton.mp h]
      exact ⟨id, rfl, hanswer⟩
    · cases h
  · cases h

/-- A step of a resolver on its own enters nothing but answers of the backend. -/
theorem Faithful.enter {s : IdentityState} {l : Ledger} (h : Faithful script limit l.notes)
    (e : SoleEvent) : Faithful script limit (s.enter limit l (e.toEvent script)).notes := by
  cases e with
  | resolve tenant externalId =>
      intro n hn
      have hmem : n ∈ l.notes ++
          s.meanwhile limit tenant externalId (.ofCall (script tenant externalId)) ++
          s.ownNotes limit tenant externalId (.ofCall (script tenant externalId)) := hn
      rw [meanwhile_ofCall, List.append_nil] at hmem
      rcases List.mem_append.mp hmem with hold | hnew
      · exact h n hold
      · obtain ⟨id, hwrite, hanswer⟩ := eq_of_mem_ownNotes hnew
        rw [hwrite]
        exact ⟨id, rfl, hanswer⟩
  | get tenant externalId => exact h
  | install settings =>
      intro n hn
      cases hn
  | advance nanoseconds => exact h

/-- Whatever such a resolver has gone through, its ledger notes answers of the backend. -/
theorem faithful_ledger (now : Moment) (history : List SoleEvent) :
    Faithful script limit (ledger limit now (history.map (SoleEvent.toEvent script))).notes := by
  have hall : ∀ (s : IdentityState) (l : Ledger), Faithful script limit l.notes →
      Faithful script limit
        (s.enterAll limit l (history.map (SoleEvent.toEvent script))).notes := by
    induction history with
    | nil => exact fun _ _ h => h
    | cons e rest ih => exact fun s l h => ih _ _ (h.enter e)
  apply hall
  intro n hn
  cases hn

/-- A hit in a cache that a faithful ledger accounts for is the backend's own answer. -/
theorem result_of_hit {s : IdentityState} {l : Ledger} (hkeeps : s.Keeps l)
    (hfaithful : Faithful script limit l.notes) {tenant externalId id : String}
    (hhit : (s.get tenant externalId).1 = .ok (.hit id)) :
    (script tenant externalId).result limit = .ok id := by
  obtain ⟨_, _, _, hmem, _, _⟩ := hkeeps.note_of_hit hhit
  obtain ⟨id', hid, hanswer⟩ := hfaithful _ hmem
  obtain rfl : id = id' := Option.some.inj hid
  exact hanswer

/-- A blank external id is rejected before anything is looked at. -/
theorem consult_of_blank {externalId : String} (h : Text.isBlank externalId = true)
    (slot : IdentitySlot) (now : Moment) (tenant : String) :
    consult slot now tenant externalId =
      (.rejected (.invalid "external patron id is required"), slot) := by
  unfold consult
  rw [if_pos h]

/-- Any other external id is found in the cache, or else the backend is asked. -/
theorem consult_of_not_blank {externalId : String} (h : Text.isBlank externalId ≠ true)
    (s : IdentityState) (tenant : String) :
    (∃ id, (s.get tenant externalId).1 = .ok (.hit id) ∧
      consult s.slot s.now tenant externalId = (.known id, (s.get tenant externalId).2.slot)) ∨
    ((∀ id, (s.get tenant externalId).1 ≠ .ok (.hit id)) ∧
      consult s.slot s.now tenant externalId =
        (.unknown, (s.get tenant externalId).2.slot)) := by
  unfold consult get
  rw [if_neg h]
  obtain ⟨result, slot⟩ := s.slot.get s.now tenant externalId
  cases result with
  | error e => exact Or.inr ⟨by simp, rfl⟩
  | ok found =>
      cases found with
      | hit id => exact Or.inl ⟨id, rfl, rfl⟩
      | knownAbsent => exact Or.inr ⟨by simp, rfl⟩
      | miss => exact Or.inr ⟨by simp, rfl⟩

/-- What is settled on is the answer of the backend if the cache agrees with that. -/
theorem settle_eq_mapError {slot : IdentitySlot} {now : Moment} {tenant externalId : String}
    {found : Except Backend.Error String}
    (hagrees : ∀ id, (slot.get now tenant externalId).1 = .ok (.hit id) → found = .ok id) :
    (settle slot now tenant externalId found).1 = found.mapError (lookupError externalId) := by
  cases hfound : found with
  | error e => rfl
  | ok answer =>
      cases hsettled : (settle slot now tenant externalId (.ok answer)).1 with
      | error e =>
          -- an answer is never turned into an error
          dsimp only [settle] at hsettled
          split at hsettled <;> cases hsettled
      | ok id =>
          rcases settle_eq_ok hsettled with hsame | hhit
          · rw [Except.ok.inj hsame]
            rfl
          · have hanswer := hagrees id hhit
            rw [hfound] at hanswer
            rw [Except.ok.inj hanswer]
            rfl

/-- Without a cache a resolution gives the answer of the backend, unless the id is blank. -/
theorem result_resolve_start (now : Moment) {externalId : String}
    (h : Text.isBlank externalId ≠ true) (tenant : String) (call : Backend.Call String) :
    ((start now).resolve limit tenant externalId (.ofCall call)).result =
      (call.result limit).mapError (lookupError externalId) := by
  have hconsult : consult (start now).slot now tenant externalId =
      (.unknown, (start now).slot) := by
    unfold consult
    rw [if_neg h]
    rfl
  rw [resolve_of_unknown hconsult]
  apply settle_eq_mapError
  intro id hhit
  cases hhit

/-- With a cache that a faithful ledger accounts for, a resolution gives the answer of the
backend as well. -/
theorem result_of_faithful {s : IdentityState} {l : Ledger} (hkeeps : s.Keeps l)
    (hfaithful : Faithful script limit l.notes) {externalId : String}
    (h : Text.isBlank externalId ≠ true) (tenant : String) :
    (s.resolve limit tenant externalId (.ofCall (script tenant externalId))).result =
      ((script tenant externalId).result limit).mapError (lookupError externalId) := by
  rcases consult_of_not_blank h s tenant with ⟨id, hhit, hconsult⟩ | ⟨-, hconsult⟩
  · have hanswer := result_of_hit hkeeps hfaithful hhit
    unfold resolve
    rw [hconsult, hanswer]
    rfl
  · -- the cache may still know the patron when the answer arrives, and then it agrees with it
    let call := script tenant externalId
    have hasked : ((s.get tenant externalId).2.undergo limit (.ofCall call)).Keeps
        { l with notes := l.notes ++ s.meanwhile limit tenant externalId (.ofCall call) } :=
      hkeeps.undergo hconsult (.ofCall call)
    rw [meanwhile_ofCall, List.append_nil] at hasked
    rw [resolve_of_unknown hconsult]
    apply settle_eq_mapError
    intro id hhit
    exact result_of_hit hasked hfaithful hhit

/-- Whatever a resolver has gone through, with whatever caches and for whatever patrons, it
gives the same id for a patron, or the same error, as one that has no cache.  Only what is
looked up may differ: a resolver with a cache looks up what the other one does, or nothing. -/
theorem resolution_eq_uncached (limit : Span)
    (script : String → String → Backend.Call String) (now now' : Moment)
    (history : List SoleEvent) (tenant externalId : String) :
    let s := (start now).run limit (history.map (SoleEvent.toEvent script))
    let course := LookupCourse.ofCall (script tenant externalId)
    let cached := s.resolve limit tenant externalId course
    let uncached := (start now').resolve limit tenant externalId course
    cached.result = uncached.result ∧
      (cached.lookups = uncached.lookups ∨ cached.lookups = []) := by
  intro s course cached uncached
  have hkeeps : s.Keeps (ledger limit now (history.map (SoleEvent.toEvent script))) :=
    run_accounts now _
  have hfaithful := @faithful_ledger script limit now history
  by_cases hblank : Text.isBlank externalId = true
  · have hrefused : ∀ s' : IdentityState, s'.resolve limit tenant externalId course =
        ⟨.error (.invalid "external patron id is required"), [], s'⟩ := by
      intro s'
      unfold resolve
      rw [consult_of_blank hblank]
    have hcached : cached = _ := hrefused s
    have huncached : uncached = _ := hrefused (start now')
    rw [hcached, huncached]
    exact ⟨rfl, Or.inl rfl⟩
  · constructor
    · exact (result_of_faithful hkeeps hfaithful hblank tenant).trans
        (result_resolve_start now' hblank tenant (script tenant externalId)).symm
    · rcases consult_of_not_blank hblank s tenant with ⟨id, -, hconsult⟩ | ⟨-, hconsult⟩
      · right
        show (s.resolve limit tenant externalId course).lookups = []
        unfold resolve
        rw [hconsult]
      · left
        have hstart : uncached.lookups = [(tenant, externalId)] := by
          show ((start now').resolve limit tenant externalId course).lookups = _
          unfold resolve consult
          rw [if_neg hblank]
          rfl
        rw [hstart]
        show (s.resolve limit tenant externalId course).lookups = _
        rw [resolve_of_unknown hconsult]

end

end IdentityState
end Patron
end PatronGateway
