import PatronGateway.Proofs.Cache.Content
import PatronGateway.Proofs.Token.History

/-!
# What a verification does

A verification fetches the keys of its realm once or not at all, whatever it finds about the
token afterwards, and puts into the cache what the fetch brings, if it brings something in time.

* `verify_cases` says when keys are fetched, and what is left behind.
* `verification_effect` puts that together for every verifier and every cache.
-/

namespace PatronGateway
namespace Token

open Cache (KeySlot Moment Slot)
open Time (Span)

/-- A fetch under a limit brings what it brings in time. -/
theorem FetchCourse.brings_result_iff {c : FetchCourse} {limit : Span}
    {document : Option String} :
    Brings (c.result limit) document ↔ c.delay ≤ limit.nanoseconds ∧ Brings c.outcome document := by
  unfold result
  by_cases h : c.delay ≤ limit.nanoseconds
  · rw [if_pos h]
    exact ⟨fun hbrings => ⟨h, hbrings⟩, And.right⟩
  · rw [if_neg h]
    exact iff_of_false (fun hbrings => by cases hbrings) fun hbrings => h hbrings.1

namespace VerifierState

variable {secondsAt : Moment → Nat} {settings : VerifierSettings}

/-- The cache gives a document for a realm, or knows that there is none. -/
def Knows (s : VerifierState) (realm : String) : Prop :=
  (∃ document, (s.get realm).1 = .ok (.hit document)) ∨ (s.get realm).1 = .ok .knownAbsent

/-- All that a verification can do: it fetches nothing, because the token has no readable
header or the cache knows the realm, and changes nothing but a counter; or it fetches the keys
once, and the cache takes in what that brings. -/
theorem verify_cases (s : VerifierState) (token realm : String) (course : FetchCourse) :
    let v := s.verify secondsAt settings token realm course
    let silent := (∃ e, readHeader token = .error e) ∨ s.Knows realm
    (silent ∧ v.fetches = [] ∧ v.state.slot.Alike s.slot ∧ v.state.now = s.now) ∨
    (¬ silent ∧ v.fetches = [realm] ∧
      v.state.now = s.now + course.elapsed settings.requestTimeout ∧
      v.state.slot = (settleKeys (s.get realm).2.slot v.state.now realm
        (course.result settings.requestTimeout)).2) := by
  intro v silent
  cases hheader : readHeader token with
  | error e =>
      have hv : v = _ := verify_of_readHeader_error hheader
      rw [hv]
      exact Or.inl ⟨Or.inl ⟨e, hheader⟩, rfl, Slot.Alike.refl s.slot, rfl⟩
  | ok parts =>
      obtain ⟨p, h⟩ := parts
      have hv : v = _ := verify_of_readHeader hheader
      rw [hv]
      rcases s.obtainKeys_cases settings.requestTimeout realm course with
        ⟨document, hget, hobtain⟩ | ⟨hget, hobtain⟩ | ⟨hhit, habsent, hobtain⟩
      · rw [hobtain]
        exact Or.inl ⟨Or.inr (Or.inl ⟨document, hget⟩), rfl, Slot.get_alike s.slot _ _, rfl⟩
      · rw [hobtain]
        exact Or.inl ⟨Or.inr (Or.inr hget), rfl, Slot.get_alike s.slot _ _, rfl⟩
      · rw [hobtain]
        refine Or.inr ⟨?_, rfl, rfl, rfl⟩
        rintro (⟨e, he⟩ | ⟨document, hget⟩ | hget)
        · rw [hheader] at he
          cases he
        · exact hhit document hget
        · exact habsent hget

/-- A fetch that brings something has it put into the cache. -/
theorem settleKeys_slot_of_brings {fetched : Except FetchError String} {document : Option String}
    (h : Brings fetched document) (slot : KeySlot) (now : Moment) (realm : String) :
    (settleKeys slot now realm fetched).2 = (slot.put now realm document).2 := by
  cases h with
  | document text => rfl
  | absent realm' => rfl

/-- One that brings nothing does not touch it. -/
theorem settleKeys_slot_of_not_brings {fetched : Except FetchError String}
    (h : ∀ document, ¬ Brings fetched document) (slot : KeySlot) (now : Moment) (realm : String) :
    (settleKeys slot now realm fetched).2 = slot := by
  rcases settleKeys_slot slot now realm fetched with hsame | ⟨document, hbrings, -⟩
  · exact hsame
  · exact absurd hbrings (h document)

/-- What one verification does, for every verifier, every cache, token and realm, and every
course of the fetch.

Nothing is fetched just if the token has no readable header, or the cache gives a document for
the realm or knows that there is none; otherwise the keys of just this realm are fetched once,
whatever becomes of the token afterwards.  A fetch that comes in time with a document, or with
the news that there is no such realm, leaves the entries that a put of that leaves, at the moment
at which it comes; in all other cases the entries stay as they are. -/
theorem verification_effect (secondsAt : Moment → Nat) (settings : VerifierSettings)
    (s : VerifierState) (token realm : String) (course : FetchCourse) :
    let v := s.verify secondsAt settings token realm course
    let limit := settings.requestTimeout.nanoseconds
    (v.fetches = [] ↔ (∃ e, readHeader token = .error e) ∨
      (∃ document, (s.get realm).1 = .ok (.hit document)) ∨
      (s.get realm).1 = .ok .knownAbsent) ∧
    (v.fetches = [] → v.state.now = s.now ∧ v.state.slot.entries? = s.slot.entries?) ∧
    (v.fetches ≠ [] → v.fetches = [realm] ∧ v.state.now = s.now + min course.delay limit) ∧
    (v.fetches ≠ [] → ∀ document, course.delay ≤ limit ∧ Brings course.outcome document →
      v.state.slot.entries? = ((s.advance course.delay).put realm document).2.slot.entries?) ∧
    ((¬ ∃ document, course.delay ≤ limit ∧ Brings course.outcome document) →
      v.state.slot.entries? = s.slot.entries?) := by
  intro v limit
  rcases s.verify_cases token realm course with
    ⟨hsilent, hfetches, halike, hnow⟩ | ⟨hasks, hfetches, hnow, hslot⟩
  · change v.fetches = [] at hfetches
    exact ⟨iff_of_true hfetches hsilent, fun _ => ⟨hnow, halike.entries?_eq⟩,
      fun hsome => absurd hfetches hsome, fun hsome => absurd hfetches hsome,
      fun _ => halike.entries?_eq⟩
  · change v.fetches = [realm] at hfetches
    change v.state.slot = (settleKeys _ v.state.now _ _).2 at hslot
    have hsome : v.fetches ≠ [] := by simp [hfetches]
    have halike : (s.get realm).2.slot.Alike s.slot := Slot.get_alike s.slot s.now realm
    refine ⟨iff_of_false hsome hasks, fun hnone => absurd hnone hsome,
      fun _ => ⟨hfetches, hnow⟩, ?_, ?_⟩
    · intro _ document hbrings
      have hmoment : v.state.now = s.now + course.delay :=
        hnow.trans (congrArg (s.now + ·) (Nat.min_eq_left hbrings.1))
      rw [hslot, hmoment, settleKeys_slot_of_brings (FetchCourse.brings_result_iff.mpr hbrings)]
      exact (halike.put _ realm document).entries?_eq
    · intro hnothing
      have hbrings : ∀ document, ¬ Brings (course.result settings.requestTimeout) document :=
        fun document h => hnothing ⟨document, FetchCourse.brings_result_iff.mp h⟩
      rw [hslot, settleKeys_slot_of_not_brings hbrings]
      exact halike.entries?_eq

end VerifierState
end Token
end PatronGateway
