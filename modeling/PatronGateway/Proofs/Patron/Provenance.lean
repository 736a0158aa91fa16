import PatronGateway.Proofs.Patron.History
import PatronGateway.Proofs.Cache.Run

/-!
# Where the id of a patron comes from

Whatever has happened to a resolver before, and whatever others write into its cache while
the backend is asked, it gives out only the backend's own answer for just this patron, or an
id that has been stored for just this patron not too long ago.

* `run_accounts` is the invariant of a whole run: there is no cache yet, or the ledger
  accounts for its entries.
* `resolved_id_has_origin` is what follows for every id that is given out.
-/

namespace PatronGateway
namespace Patron
namespace IdentityState

open Cache (IdentitySlot Moment Slot)
open Time (Span)

section

variable {limit : Span}

theorem isInitialized_await (s : IdentityState) (nanoseconds : Nat)
    (writes : List (Nat × Write)) :
    (s.await nanoseconds writes).slot.isInitialized = s.slot.isInitialized := by
  induction writes generalizing s nanoseconds with
  | nil => rfl
  | cons first rest ih =>
      obtain ⟨pause, w⟩ := first
      unfold await
      by_cases hpause : pause ≤ nanoseconds
      · rw [if_pos hpause, ih]
        exact Slot.isInitialized_put s.slot _ _ _
      · rw [if_neg hpause]
        rfl

theorem isInitialized_resolve (s : IdentityState) (tenant externalId : String)
    (course : LookupCourse) :
    (s.resolve limit tenant externalId course).state.slot.isInitialized =
      s.slot.isInitialized := by
  have hget : (s.get tenant externalId).2.slot.isInitialized = s.slot.isInitialized :=
    Slot.isInitialized_get s.slot s.now _
  rcases s.consult_cases tenant externalId with ⟨e, hconsult⟩ | ⟨id, -, hconsult⟩ | hconsult
  · unfold resolve
    rw [hconsult]
  · unfold resolve
    rw [hconsult]
    exact hget
  · rw [resolve_of_unknown hconsult]
    dsimp only
    rw [settle_slot]
    cases course.call.result limit with
    | error e => exact (isInitialized_await _ _ _).trans hget
    | ok id =>
        refine (Slot.isInitialized_put _ _ _ _).trans ?_
        exact (isInitialized_await _ _ _).trans hget

/-- A ledger that says when the cache is there, and accounts for what it holds. -/
def Keeps (s : IdentityState) (l : Ledger) : Prop :=
  (l.settings = none ∧ s.slot.isInitialized = false) ∨
    ∃ settings, l.settings = some settings ∧ Accounts settings s l.notes

theorem Keeps.step {s : IdentityState} {l : Ledger} (h : s.Keeps l) (e : IdentityEvent) :
    (s.step limit e).Keeps (s.enter limit l e) := by
  rcases h with ⟨hnone, hslot⟩ | ⟨settings, hsome, haccounts⟩
  · cases e with
    | resolve tenant externalId course =>
        exact Or.inl ⟨hnone, (s.isInitialized_resolve tenant externalId course).trans hslot⟩
    | put w => exact Or.inl ⟨hnone, (Slot.isInitialized_put s.slot _ _ _).trans hslot⟩
    | get tenant externalId =>
        exact Or.inl ⟨hnone, (Slot.isInitialized_get s.slot _ _).trans hslot⟩
    | install settings => exact Or.inr ⟨settings, rfl, Accounts.install s settings⟩
    | advance nanoseconds => exact Or.inl ⟨hnone, hslot⟩
  · cases e with
    | resolve tenant externalId course =>
        exact Or.inr ⟨settings, hsome, haccounts.resolve limit tenant externalId course⟩
    | put w => exact Or.inr ⟨settings, hsome, haccounts.put w⟩
    | get tenant externalId => exact Or.inr ⟨settings, hsome, haccounts.get tenant externalId⟩
    | install settings' => exact Or.inr ⟨settings', rfl, Accounts.install s settings'⟩
    | advance nanoseconds => exact Or.inr ⟨settings, hsome, haccounts.advance nanoseconds⟩

theorem Keeps.run {s : IdentityState} {l : Ledger} (h : s.Keeps l)
    (history : List IdentityEvent) :
    (s.run limit history).Keeps (s.enterAll limit l history) := by
  induction history generalizing s l with
  | nil => exact h
  | cons e rest ih => exact ih (h.step e)

/-- The invariant of a run: either the cache has never been installed, or the ledger accounts
for what it holds. -/
theorem run_accounts (now : Moment) (history : List IdentityEvent) :
    ((start now).run limit history).Keeps (ledger limit now history) :=
  Keeps.run (Or.inl ⟨rfl, rfl⟩) history

/-- While the backend is asked, the ledger with the notes of what others write keeps up. -/
theorem Keeps.undergo {s : IdentityState} {l : Ledger} (h : s.Keeps l)
    {tenant externalId : String}
    (hconsult : consult s.slot s.now tenant externalId =
      (.unknown, (s.get tenant externalId).2.slot)) (course : LookupCourse) :
    ((s.get tenant externalId).2.undergo limit course).Keeps
      { l with notes := l.notes ++ s.meanwhile limit tenant externalId course } := by
  rcases h with ⟨hnone, hslot⟩ | ⟨settings, hsome, haccounts⟩
  · refine Or.inl ⟨hnone, (isInitialized_await _ _ _).trans ?_⟩
    exact (Slot.isInitialized_get s.slot s.now _).trans hslot
  · exact Or.inr ⟨settings, hsome, haccounts.undergo limit hconsult course⟩

/-- A hit in the cache has been noted for just this patron, and has not reached its
lifetime. -/
theorem Keeps.note_of_hit {s : IdentityState} {l : Ledger} (h : s.Keeps l)
    {tenant externalId id : String} (hhit : (s.get tenant externalId).1 = .ok (.hit id)) :
    ∃ settings moment, l.settings = some settings ∧
      ⟨⟨tenant, externalId, some id⟩, moment⟩ ∈ l.notes ∧ moment ≤ s.now ∧
      s.now - moment < settings.presentTtl.nanoseconds := by
  rcases h with ⟨-, hslot⟩ | ⟨settings, hsome, haccounts⟩
  · have hget := Slot.get_of_isInitialized_false hslot s.now
      (Cache.identityKey tenant externalId)
    have herror : (s.get tenant externalId).1 = .error ⟨Slot.name s.slot⟩ := congrArg Prod.fst hget
    rw [herror] at hhit
    cases hhit
  · obtain ⟨moment, ⟨⟨tenant', externalId', internalId⟩, hmem, hkey, hvalue⟩, hyoung⟩ :=
      haccounts.backed.noted_of_hit hhit
    -- the key is that of no other patron
    obtain ⟨rfl, rfl⟩ := Cache.identityKey_inj.mp hkey
    obtain rfl : internalId = some id := hvalue
    exact ⟨settings, moment, hsome, hmem, haccounts.past _ hmem, hyoung⟩

/-- An id that is settled on is the backend's answer, or the cache gives it. -/
theorem settle_eq_ok {slot : IdentitySlot} {now : Moment} {tenant externalId id : String}
    {found : Except Backend.Error String}
    (h : (settle slot now tenant externalId found).1 = .ok id) :
    found = .ok id ∨ (slot.get now tenant externalId).1 = .ok (.hit id) := by
  cases found with
  | error e => cases h
  | ok answer =>
      dsimp only [settle] at h
      cases hput : slot.put now tenant externalId (some answer) with
      | mk result slot' =>
          rw [hput] at h
          cases result with
          | error e =>
              obtain rfl : answer = id := Except.ok.inj h
              exact Or.inl rfl
          | ok entry =>
              have hgiven : entry.value.getD answer = id := Except.ok.inj h
              cases hvalue : entry.value with
              | none =>
                  rw [hvalue] at hgiven
                  exact Or.inl (congrArg Except.ok hgiven)
              | some v =>
                  rw [hvalue] at hgiven
                  obtain rfl : v = id := hgiven
                  rcases Slot.hit_of_put (congrArg Prod.fst hput) hvalue with hown | hhit
                  · exact Or.inl (congrArg Except.ok (Option.some.inj hown))
                  · exact Or.inr hhit

/-- Every id that is given out has an origin, whatever a resolver has gone through and
whatever others write while it asks the backend.  Either it is the answer of the backend to
the one lookup of this resolution, made for just this tenant and external id; or it has been
stored for just these since the cache was installed last, less than the lifetime of values
before the resolution reads it.  What has been stored is noted in the ledger: the answer to an
earlier resolution, a put, or a write of somebody else, also one during this resolution. -/
theorem resolved_id_has_origin {now : Moment} {history : List IdentityEvent}
    {tenant externalId id : String} {course : LookupCourse}
    (h : (((start now).run limit history).resolve limit tenant externalId course).result =
      .ok id) :
    let s := (start now).run limit history
    let r := s.resolve limit tenant externalId course
    (r.lookups = [(tenant, externalId)] ∧ course.call.result limit = .ok id) ∨
    ∃ settings moment, (ledger limit now history).settings = some settings ∧
      ⟨⟨tenant, externalId, some id⟩, moment⟩ ∈
        (ledger limit now history).notes ++ s.meanwhile limit tenant externalId course ∧
      moment ≤ r.state.now ∧
      r.state.now - moment < settings.presentTtl.nanoseconds := by
  have hkeeps : Keeps ((start now).run limit history) (ledger limit now history) :=
    run_accounts now history
  generalize (start now).run limit history = s at h hkeeps ⊢
  generalize ledger limit now history = l at hkeeps ⊢
  dsimp only
  rcases s.consult_cases tenant externalId with ⟨e, hconsult⟩ | ⟨found, hhit, hconsult⟩ | hconsult
  · unfold resolve at h
    rw [hconsult] at h
    cases h
  · -- the cache gives the id, and no time passes
    unfold resolve at h ⊢
    unfold meanwhile
    rw [hconsult] at h ⊢
    obtain rfl : found = id := Except.ok.inj h
    obtain ⟨settings, moment, hsome, hmem, hpast, hyoung⟩ := hkeeps.note_of_hit hhit
    exact Or.inr ⟨settings, moment, hsome, List.mem_append_left _ hmem, hpast, hyoung⟩
  · rw [resolve_of_unknown hconsult] at h ⊢
    rcases settle_eq_ok h with hanswer | hhit
    · exact Or.inl ⟨rfl, hanswer⟩
    · exact Or.inr ((hkeeps.undergo hconsult course).note_of_hit hhit)

end

/-- A history in which the id of a patron is asked for and kept. -/
def keptHistory : List IdentityEvent :=
  [.install Cache.Settings.default, .resolve "diku" "1" ⟨⟨100000000, .ok "a"⟩, []⟩,
    .advance 1000000000]

/-- A lookup that the backend answers while somebody else has just written another id. -/
def racedCourse : LookupCourse := ⟨⟨100000000, .ok "b"⟩, [(40000000, ⟨"diku", "2", some "c"⟩)]⟩

/-- The id that somebody else has written wins, and is noted as theirs. -/
theorem resolved_id_has_origin_raced :
    let s := (start 0).run (Span.ofSeconds 5) keptHistory
    let r := s.resolve (Span.ofSeconds 5) "diku" "2" racedCourse
    r.result = .ok "c" ∧
    ∃ (settings : Cache.Settings) (moment : Moment),
      ⟨⟨"diku", "2", some "c"⟩, moment⟩ ∈
        (ledger (Span.ofSeconds 5) 0 keptHistory).notes ++
          s.meanwhile (Span.ofSeconds 5) "diku" "2" racedCourse ∧
      r.state.now - moment < settings.presentTtl.nanoseconds := by
  have hresult : (((start 0).run (Span.ofSeconds 5) keptHistory).resolve (Span.ofSeconds 5)
      "diku" "2" racedCourse).result = .ok "c" := by
    decide +kernel
  refine ⟨hresult, ?_⟩
  rcases resolved_id_has_origin hresult with
    ⟨-, hanswer⟩ | ⟨settings, moment, -, hmem, -, hyoung⟩
  · have hother : racedCourse.call.result (Span.ofSeconds 5) ≠ .ok "c" := by decide +kernel
    exact absurd hanswer hother
  · exact ⟨settings, moment, hmem, hyoung⟩

end IdentityState
end Patron
end PatronGateway
