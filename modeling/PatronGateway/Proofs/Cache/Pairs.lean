import PatronGateway.Proofs.Cache.Identity
import PatronGateway.Proofs.Cache.Renaming

/-!
# A cache of patrons keeps pairs

The cache of patrons goes by the texts that its keys are written as, but nobody can tell: in
every run it answers as a cache would that goes by the pairs of tenant and external id.

* `PairCache` is that cache, with a clock, and `PairCache.step` says what it answers.
* `IdentityCache` is the cache of patrons with a clock.
* `PairCache.written` is the one as the other, with every pair written as its key.
  `step_written` says that the two take the same steps, and `answers_eq_of_pairs` follows for
  every run.
-/

namespace PatronGateway
namespace Cache

/-- What can be done with a cache of patrons, and the passing of time. -/
inductive PatronUse where
  | install (settings : Settings)
  | get (tenant externalId : String)
  | put (tenant externalId : String) (internalId : Option String)
  | stats
  | advance (nanoseconds : Nat)

/-- What a use is answered. -/
inductive PatronAnswer where
  | done
  | found (result : Except Uninitialized (Lookup String))
  | kept (result : Except Uninitialized (Entry String))
  | counted (summary : Option Stats)

/-- The answers to some uses, one after the other, of something that takes steps. -/
def transcript {S : Type} (step : S → PatronUse → PatronAnswer × S) :
    S → List PatronUse → List PatronAnswer
  | _, [] => []
  | s, u :: rest => (step s u).1 :: transcript step (step s u).2 rest

/-- A cache that goes by pairs of tenant and external id, once there is one, and the clock. -/
structure PairCache where
  cache : Option (Bounded (String × String) String)
  now : Moment

namespace PairCache

/-- There is no cache at the beginning. -/
def start (now : Moment) : PairCache := ⟨none, now⟩

/-- One use: without a cache it is refused, and installing one leaves nothing of the one that
has been there. -/
def step (s : PairCache) : PatronUse → PatronAnswer × PairCache
  | .install settings => (.done, { s with cache := some (Bounded.empty settings) })
  | .get tenant externalId =>
    match s.cache with
    | none => (.found (.error ⟨IdentitySlot.name⟩), s)
    | some c =>
      (.found (.ok (c.get s.now (tenant, externalId)).1),
        { s with cache := some (c.get s.now (tenant, externalId)).2 })
  | .put tenant externalId internalId =>
    match s.cache with
    | none => (.kept (.error ⟨IdentitySlot.name⟩), s)
    | some c =>
      (.kept (.ok (c.put s.now (tenant, externalId) internalId).1),
        { s with cache := some (c.put s.now (tenant, externalId) internalId).2 })
  | .stats => (.counted (s.cache.map Bounded.stats), s)
  | .advance nanoseconds => (.done, { s with now := s.now + nanoseconds })

end PairCache

/-- The cache of patrons and the clock. -/
structure IdentityCache where
  slot : IdentitySlot
  now : Moment

namespace IdentityCache

/-- The cache has not been installed at the beginning. -/
def start (now : Moment) : IdentityCache := ⟨Slot.vacant IdentitySlot.name, now⟩

/-- One use. -/
def step (s : IdentityCache) : PatronUse → PatronAnswer × IdentityCache
  | .install settings => (.done, { s with slot := s.slot.install settings })
  | .get tenant externalId =>
    let (result, slot) := IdentitySlot.get s.slot s.now tenant externalId
    (.found result, { s with slot })
  | .put tenant externalId internalId =>
    let (result, slot) := IdentitySlot.put s.slot s.now tenant externalId internalId
    (.kept result, { s with slot })
  | .stats => (.counted s.slot.stats?, s)
  | .advance nanoseconds => (.done, { s with now := s.now + nanoseconds })

end IdentityCache

/-- The key of a pair. -/
def keyOf (pair : String × String) : String := identityKey pair.1 pair.2

theorem keyOf_injective : keyOf.Injective := by
  rintro ⟨tenant, externalId⟩ ⟨tenant', externalId'⟩ h
  obtain ⟨rfl, rfl⟩ := identityKey_inj.mp h
  rfl

namespace PairCache

/-- A cache of pairs as a cache of patrons: every pair is written as its key. -/
def written (p : PairCache) : IdentityCache where
  slot := ⟨IdentitySlot.name, p.cache.map (Bounded.mapKeys keyOf)⟩
  now := p.now

variable (p : PairCache) (tenant externalId : String)

theorem get_written :
    p.written.step (.get tenant externalId) =
      ((p.step (.get tenant externalId)).1, (p.step (.get tenant externalId)).2.written) := by
  obtain ⟨cache, now⟩ := p
  cases cache with
  | none => rfl
  | some c =>
      have hget : (c.mapKeys keyOf).get now (identityKey tenant externalId) = _ :=
        c.get_mapKeys now keyOf_injective (tenant, externalId)
      simp only [IdentityCache.step, step, IdentitySlot.get, Slot.get, written, Option.map_some]
      rw [hget]

theorem put_written (internalId : Option String) :
    p.written.step (.put tenant externalId internalId) =
      ((p.step (.put tenant externalId internalId)).1,
        (p.step (.put tenant externalId internalId)).2.written) := by
  obtain ⟨cache, now⟩ := p
  cases cache with
  | none => rfl
  | some c =>
      have hput : (c.mapKeys keyOf).put now (identityKey tenant externalId) internalId = _ :=
        c.put_mapKeys now keyOf_injective (tenant, externalId) internalId
      simp only [IdentityCache.step, step, IdentitySlot.put, Slot.put, written, Option.map_some]
      rw [hput]

theorem stats_written :
    p.written.step .stats = ((p.step .stats).1, (p.step .stats).2.written) := by
  obtain ⟨cache, now⟩ := p
  cases cache with
  | none => rfl
  | some c => simp [IdentityCache.step, step, Slot.stats?, written]

/-- Every use is answered alike, and leaves caches that are alike. -/
theorem step_written (u : PatronUse) :
    p.written.step u = ((p.step u).1, (p.step u).2.written) := by
  cases u with
  | install settings => rfl
  | get tenant externalId => exact p.get_written tenant externalId
  | put tenant externalId internalId => exact p.put_written tenant externalId internalId
  | stats => exact p.stats_written
  | advance nanoseconds => rfl

theorem transcript_written (uses : List PatronUse) :
    transcript IdentityCache.step p.written uses = transcript step p uses := by
  induction uses generalizing p with
  | nil => rfl
  | cons u rest ih => simp only [transcript, step_written, ih]

end PairCache

/-- In every run from the beginning the cache of patrons answers as a cache of pairs does.  Its
keys tell the pairs apart. -/
theorem IdentityCache.answers_eq_of_pairs (now : Moment) (uses : List PatronUse) :
    transcript IdentityCache.step (start now) uses =
        transcript PairCache.step (PairCache.start now) uses ∧
      ∀ tenant externalId tenant' externalId',
        identityKey tenant externalId = identityKey tenant' externalId' →
          tenant = tenant' ∧ externalId = externalId' :=
  ⟨(PairCache.start now).transcript_written uses, fun _ _ _ _ h => identityKey_inj.mp h⟩

end Cache
end PatronGateway
