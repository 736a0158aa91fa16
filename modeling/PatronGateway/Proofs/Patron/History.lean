import PatronGateway.Patron.Identity
import PatronGateway.Proofs.Cache.Identity

/-!
# The history of a resolver

A resolver and its cache of patrons go through resolutions, puts, lookups, installations
and the passing of time, in any order, and while the backend is asked others may write into
the cache at any moment.  A *ledger* notes what the cache has taken in since it was
installed last: whose id, which one, and when.

* `Accounts` is the invariant: the entries of the cache all stand in the ledger.
* `Accounts.put` keeps it over a write, `Accounts.await` while others write, and
  `Accounts.resolve` over a resolution.
-/

namespace PatronGateway
namespace Patron

open Cache (IdentitySlot Lookup Moment Slot identityKey)
open Time (Span)

/-- What can happen to a resolver. -/
inductive IdentityEvent where
  | resolve (tenant externalId : String) (course : LookupCourse)
  | put (w : Write)
  | get (tenant externalId : String)
  | install (settings : Cache.Settings)
  | advance (nanoseconds : Nat)

/-- A write that the cache has taken in, and when. -/
structure Note where
  write : Write
  moment : Moment

/-- What a cache has taken in since it was installed last. -/
structure Ledger where
  settings : Option Cache.Settings
  notes : List Note

namespace IdentityState

/-- A resolver whose cache has not been installed. -/
def start (now : Moment) : IdentityState := ⟨Slot.vacant IdentitySlot.name, now⟩

/-- The note of a write, which the cache takes in only if it knows nothing of the
patron. -/
def noteOf (s : IdentityState) (w : Write) : List Note :=
  match (s.get w.tenant w.externalId).1 with
  | .ok .miss => [⟨w, s.now⟩]
  | _ => []

/-- The notes of what others write while some nanoseconds pass. -/
def awaitNotes (s : IdentityState) : Nat → List (Nat × Write) → List Note
  | _, [] => []
  | nanoseconds, (pause, w) :: rest =>
    if pause ≤ nanoseconds then
      (s.advance pause).noteOf w ++
        ((s.advance pause).put w).2.awaitNotes (nanoseconds - pause) rest
    else []

section

variable (limit : Span)

/-- The notes of what others write during a resolution; nobody is awaited unless the backend
is asked. -/
def meanwhile (s : IdentityState) (tenant externalId : String) (course : LookupCourse) :
    List Note :=
  match consult s.slot s.now tenant externalId with
  | (.unknown, slot) =>
    ({ s with slot }).awaitNotes (course.call.elapsed limit) course.writes
  | _ => []

/-- The note of the id that a resolution puts into the cache: the backend's answer. -/
def ownNotes (s : IdentityState) (tenant externalId : String) (course : LookupCourse) :
    List Note :=
  match consult s.slot s.now tenant externalId, course.call.result limit with
  | (.unknown, slot), .ok id =>
    (({ s with slot }).undergo limit course).noteOf ⟨tenant, externalId, some id⟩
  | _, _ => []

/-- One step. -/
def step (s : IdentityState) : IdentityEvent → IdentityState
  | .resolve tenant externalId course => (s.resolve limit tenant externalId course).state
  | .put w => (s.put w).2
  | .get tenant externalId => (s.get tenant externalId).2
  | .install settings => s.install settings
  | .advance nanoseconds => s.advance nanoseconds

/-- Many steps. -/
def run (s : IdentityState) (history : List IdentityEvent) : IdentityState :=
  history.foldl (step limit) s

/-- What a step does to the ledger. -/
def enter (s : IdentityState) (l : Ledger) : IdentityEvent → Ledger
  | .resolve tenant externalId course =>
    { l with notes := l.notes ++ s.meanwhile limit tenant externalId course ++
        s.ownNotes limit tenant externalId course }
  | .put w => { l with notes := l.notes ++ s.noteOf w }
  | .install settings => ⟨some settings, []⟩
  | .get _ _ => l
  | .advance _ => l

/-- What many steps do to the ledger. -/
def enterAll : IdentityState → Ledger → List IdentityEvent → Ledger
  | _, l, [] => l
  | s, l, e :: rest => enterAll (s.step limit e) (s.enter limit l e) rest

/-- The ledger of a resolver whose cache was not installed at its beginning. -/
def ledger (now : Moment) (history : List IdentityEvent) : Ledger :=
  (start now).enterAll limit ⟨none, []⟩ history

end

/-- A record, by key, of what has been noted. -/
def Noted (notes : List Note) (key : String) (value : Option String) (moment : Moment) : Prop :=
  ∃ w, ⟨w, moment⟩ ∈ notes ∧ identityKey w.tenant w.externalId = key ∧ w.internalId = value

/-- The notes account for the entries of the cache, which has given settings. -/
structure Accounts (settings : Cache.Settings) (s : IdentityState) (notes : List Note) :
    Prop where
  backed : s.slot.Backed settings (Noted notes)
  past : ∀ n ∈ notes, n.moment ≤ s.now

/-- What can be said before the backend is asked: a blank id is rejected, the cache gives an
id, or nothing is known. -/
theorem consult_cases (s : IdentityState) (tenant externalId : String) :
    (∃ e, consult s.slot s.now tenant externalId = (.rejected e, s.slot)) ∨
    (∃ id, (s.get tenant externalId).1 = .ok (.hit id) ∧
      consult s.slot s.now tenant externalId = (.known id, (s.get tenant externalId).2.slot)) ∨
    consult s.slot s.now tenant externalId = (.unknown, (s.get tenant externalId).2.slot) := by
  unfold consult get
  by_cases hblank : Text.isBlank externalId = true
  · rw [if_pos hblank]
    exact Or.inl ⟨_, rfl⟩
  · rw [if_neg hblank]
    obtain ⟨result, slot⟩ := s.slot.get s.now tenant externalId
    cases result with
    | error e => exact Or.inr (Or.inr rfl)
    | ok found =>
        cases found with
        | hit id => exact Or.inr (Or.inl ⟨id, rfl, rfl⟩)
        | knownAbsent => exact Or.inr (Or.inr rfl)
        | miss => exact Or.inr (Or.inr rfl)

/-- An answer of the backend is put into the cache, and nothing else is. -/
theorem settle_slot (slot : IdentitySlot) (now : Moment) (tenant externalId : String)
    (found : Except Backend.Error String) :
    (settle slot now tenant externalId found).2 =
      match found with
      | .ok id => (slot.put now tenant externalId (some id)).2
      | .error _ => slot := by
  cases found with
  | error e => rfl
  | ok id =>
      dsimp only [settle]
      obtain ⟨result, slot'⟩ := slot.put now tenant externalId (some id)
      cases result <;> rfl

/-- What a resolution leaves behind once the backend has been asked. -/
theorem resolve_of_unknown {s : IdentityState} {limit : Span} {tenant externalId : String}
    {slot : IdentitySlot}
    (h : consult s.slot s.now tenant externalId = (.unknown, slot)) (course : LookupCourse) :
    s.resolve limit tenant externalId course =
      let asked := ({ s with slot }).undergo limit course
      let settled := settle asked.slot asked.now tenant externalId (course.call.result limit)
      ⟨settled.1, [(tenant, externalId)], { asked with slot := settled.2 }⟩ := by
  unfold resolve
  rw [h]

namespace Accounts

variable {settings : Cache.Settings} {s : IdentityState} {notes : List Note}

theorem install (s : IdentityState) (settings : Cache.Settings) :
    Accounts settings (s.install settings) [] where
  backed := Slot.Backed.install s.slot settings _
  past n hn := by cases hn

theorem get (h : Accounts settings s notes) (tenant externalId : String) :
    Accounts settings (s.get tenant externalId).2 notes where
  backed := Slot.Backed.get h.backed s.now (identityKey tenant externalId)
  past := h.past

theorem advance (h : Accounts settings s notes) (nanoseconds : Nat) :
    Accounts settings (s.advance nanoseconds) notes where
  backed := h.backed
  past n hn := Nat.le_trans (h.past n hn) (Nat.le_add_right _ _)

/-- A write is accounted for by its note. -/
theorem put (h : Accounts settings s notes) (w : Write) :
    Accounts settings (s.put w).2 (notes ++ s.noteOf w) where
  backed := by
    have hgrown : s.slot.Backed settings (Noted (notes ++ s.noteOf w)) := by
      refine h.backed.mono ?_
      rintro key value moment ⟨w', hmem, hkey, hvalue⟩
      exact ⟨w', List.mem_append_left _ hmem, hkey, hvalue⟩
    refine hgrown.put fun hmiss => ⟨w, List.mem_append_right _ ?_, rfl, rfl⟩
    have hfound : (s.get w.tenant w.externalId).1 = .ok .miss := hmiss
    unfold noteOf
    rw [hfound]
    exact List.mem_singleton_self _
  past n hn := by
    rcases List.mem_append.mp hn with hold | hnew
    · exact h.past n hold
    · unfold noteOf at hnew
      split at hnew
      · rw [List.mem_singleton.mp hnew]
        exact Nat.le_refl s.now
      · cases hnew

/-- What others write while time passes is accounted for by the notes of that. -/
theorem await (h : Accounts settings s notes) (nanoseconds : Nat)
    (writes : List (Nat × Write)) :
    Accounts settings (s.await nanoseconds writes)
      (notes ++ s.awaitNotes nanoseconds writes) := by
  -- each write is later than the one before it, so the notes are taken from a later state
  induction writes generalizing s notes nanoseconds with
  | nil =>
      unfold IdentityState.await awaitNotes
      rw [List.append_nil]
      exact h.advance nanoseconds
  | cons first rest ih =>
      obtain ⟨pause, w⟩ := first
      unfold IdentityState.await awaitNotes
      by_cases hpause : pause ≤ nanoseconds
      · rw [if_pos hpause, if_pos hpause, ← List.append_assoc]
        exact ih ((h.advance pause).put w) (nanoseconds - pause)
      · rw [if_neg hpause, if_neg hpause, List.append_nil]
        exact h.advance nanoseconds

/-- While the backend is asked, the notes of what others write account for the cache. -/
theorem undergo (h : Accounts settings s notes) (limit : Span) {tenant externalId : String}
    {slot : IdentitySlot}
    (hconsult : consult s.slot s.now tenant externalId = (.unknown, slot))
    (course : LookupCourse) :
    Accounts settings (({ s with slot }).undergo limit course)
      (notes ++ s.meanwhile limit tenant externalId course) := by
  have hslot : slot = (s.get tenant externalId).2.slot := by
    rcases s.consult_cases tenant externalId with ⟨e, hcase⟩ | ⟨id, -, hcase⟩ | hcase
    · rw [hcase] at hconsult
      cases hconsult
    · rw [hcase] at hconsult
      cases hconsult
    · rw [hcase] at hconsult
      exact (Prod.mk.inj hconsult).2.symm
  have hget : Accounts settings { s with slot } notes := by
    rw [hslot]
    exact h.get tenant externalId
  unfold meanwhile
  rw [hconsult]
  exact hget.await (course.call.elapsed limit) course.writes

/-- A resolution is accounted for by the notes of what others write meanwhile, and by the one
of the answer that it puts into the cache. -/
theorem resolve (h : Accounts settings s notes) (limit : Span) (tenant externalId : String)
    (course : LookupCourse) :
    Accounts settings (s.resolve limit tenant externalId course).state
      (notes ++ s.meanwhile limit tenant externalId course ++
        s.ownNotes limit tenant externalId course) := by
  rcases s.consult_cases tenant externalId with ⟨e, hconsult⟩ | ⟨id, -, hconsult⟩ | hconsult
  · unfold IdentityState.resolve meanwhile ownNotes
    rw [hconsult]
    dsimp only
    rw [List.append_nil, List.append_nil]
    exact h
  · unfold IdentityState.resolve meanwhile ownNotes
    rw [hconsult]
    dsimp only
    rw [List.append_nil, List.append_nil]
    exact h.get tenant externalId
  · have hasked := h.undergo limit hconsult course
    rw [resolve_of_unknown hconsult]
    unfold ownNotes
    rw [hconsult]
    dsimp only
    rw [settle_slot]
    cases course.call.result limit with
    | error e =>
        dsimp only
        rw [List.append_nil]
        exact hasked
    | ok id => exact hasked.put ⟨tenant, externalId, some id⟩

end Accounts
end IdentityState
end Patron
end PatronGateway
