import PatronGateway.Proofs.Cache.Run
import PatronGateway.Proofs.Token.Soundness

/-!
# Which failures of an identity provider last

A verifier that cannot use the identity provider says so with an upstream error.  Most of
these errors are gone with the next verification, which asks again.  Two kinds are given
without asking: that a realm does not exist, which is remembered on purpose, and that the
document of a realm is no use, which lasts because a document is remembered before anybody
reads it.

* `check_failsUpstream_iff` says over which documents a token meets an upstream error.
* `upstream_error_lasts_over_documents` says when an upstream error is given without a
  fetch, where it comes from, and after which fetches the next verification asks again.
* `unreadable_document_lasts` is a verifier that goes by a document that is no key set.
-/

namespace PatronGateway
namespace Token

open Cache (Lookup Moment Slot)
open Time (Span)

/-- Whether something fails because the identity provider could not be used. -/
def FailsUpstream {α : Type} (x : Except Error α) : Prop :=
  ∃ e, x = .error e ∧ e.isUpstream = true

@[simp] theorem not_failsUpstream_ok {α : Type} (a : α) :
    ¬ FailsUpstream (.ok a : Except Error α) := by
  rintro ⟨e, h, -⟩
  cases h

@[simp] theorem failsUpstream_error_iff {α : Type} {e : Error} :
    FailsUpstream (.error e : Except Error α) ↔ e.isUpstream = true := by
  simp [FailsUpstream]

/-- Steps that follow each other fail where the first of them that fails does. -/
theorem failsUpstream_bind_iff {α β : Type} {x : Except Error α} {f : α → Except Error β} :
    FailsUpstream (x >>= f) ↔ FailsUpstream x ∨ ∃ a, x = .ok a ∧ FailsUpstream (f a) := by
  cases x with
  | error e => simp [bind, Except.bind]
  | ok a => simp [bind, Except.bind]

/-- What is wrong with a token is not the fault of the identity provider. -/
theorem not_failsUpstream_mapError {α : Type} (x : Except Flaw α) :
    ¬ FailsUpstream (x.mapError .invalid) := by
  cases x with
  | error f => simp [Except.mapError, Error.isUpstream]
  | ok a => simp [Except.mapError]

section Checks

variable {realm document token : String} {h : Header} {k : Key} {keys : KeySet}

theorem not_failsUpstream_readHeader : ¬ FailsUpstream (readHeader token) := by
  unfold readHeader
  cases Parts.ofToken? token with
  | none => simp [Error.isUpstream]
  | some p => cases hheader : Header.ofParts p <;> simp [hheader, Error.isUpstream]

theorem readKeySet_failsUpstream_iff :
    FailsUpstream (readKeySet realm document) ↔ KeySet.read? document = none := by
  unfold readKeySet
  cases KeySet.read? document <;> simp [Error.isUpstream]

theorem not_failsUpstream_selectKey : ¬ FailsUpstream (selectKey h keys) := by
  unfold selectKey
  cases h.keyId.bind keys.find? <;> simp [Error.isUpstream]

theorem readKey_failsUpstream_iff :
    FailsUpstream (readKey realm k) ↔ k.material.key? = none := by
  unfold readKey
  cases k.material.key? <;> simp [Error.isUpstream]

/-- A document is unusable for a token if it is no key set, or if the key that the token
names there, and may use, cannot be made ready. -/
def Unusable (h : Header) (document : String) : Prop :=
  KeySet.read? document = none ∨
  ∃ keys k, KeySet.read? document = some keys ∧ selectKey h keys = .ok k ∧
    checkAlgorithm h k = .ok () ∧ k.material.key? = none

/-- The identity provider is at fault over the documents that are unusable, and over no
others. -/
theorem check_failsUpstream_iff {e : Expectation} {now : Nat} {p : Parts} :
    FailsUpstream (check e now realm p h document) ↔ Unusable h document := by
  unfold check Unusable
  simp only [failsUpstream_bind_iff, readKeySet_failsUpstream_iff, readKeySet_eq_ok_iff,
    not_failsUpstream_selectKey, not_failsUpstream_mapError, readKey_failsUpstream_iff,
    mapError_eq_ok, false_or, and_false, exists_false, or_false]
  constructor
  · rintro (hunread | ⟨keys, hkeys, k, hselect, _, halgorithm, hkey⟩)
    · exact Or.inl hunread
    · exact Or.inr ⟨keys, k, hkeys, hselect, halgorithm, hkey⟩
  · rintro (hunread | ⟨keys, k, hkeys, hselect, halgorithm, hkey⟩)
    · exact Or.inl hunread
    · exact Or.inr ⟨keys, hkeys, k, hselect, (), halgorithm, hkey⟩

end Checks

namespace VerifierState

variable {secondsAt : Moment → Nat} {settings : VerifierSettings}

/-- An upstream error is given without a fetch if the cache knows the realm not to exist, or
has a document of it that is unusable for the token. -/
theorem silent_failsUpstream_iff {s : VerifierState} {token realm : String}
    {course : FetchCourse} :
    let v := s.verify secondsAt settings token realm course
    v.fetches = [] ∧ FailsUpstream v.result ↔
      ∃ p h, readHeader token = .ok (p, h) ∧
        ((s.get realm).1 = .ok .knownAbsent ∨
          ∃ document, (s.get realm).1 = .ok (.hit document) ∧ Unusable h document) := by
  dsimp only
  cases hheader : readHeader token with
  | error e =>
      have hother : ¬ FailsUpstream (.error e : Except Error Claims) := by
        rw [failsUpstream_error_iff, ← failsUpstream_error_iff, ← hheader]
        exact not_failsUpstream_readHeader
      rw [verify_of_readHeader_error hheader]
      simp [hother]
  | ok parts =>
      obtain ⟨p, h⟩ := parts
      rw [verify_of_readHeader hheader]
      simp only [failsUpstream_bind_iff, check_failsUpstream_iff, Except.ok.injEq, Prod.mk.injEq]
      rcases s.obtainKeys_cases settings.requestTimeout realm course with
        ⟨document, hget, hobtain⟩ | ⟨hget, hobtain⟩ | ⟨hhit, habsent, hobtain⟩
      · simp [hobtain, hget]
      · simp [hobtain, hget, realmNotFound, Error.isUpstream]
      · simp [hobtain, hhit, habsent]

/-- Keys are fetched if the cache knows nothing of the realm. -/
theorem fetches_obtainKeys_iff {s : VerifierState} {limit : Span} {realm : String}
    {course : FetchCourse} :
    (s.obtainKeys limit realm course).2.1 = [realm] ↔
      ∀ found : Lookup String, (s.get realm).1 = .ok found → found = .miss := by
  rcases s.obtainKeys_cases limit realm course with
    ⟨document, hget, hobtain⟩ | ⟨hget, hobtain⟩ | ⟨hhit, habsent, hobtain⟩
  · simp [hobtain, hget]
  · simp [hobtain, hget]
  · rw [hobtain]
    refine iff_of_true rfl ?_
    intro found hget
    cases found with
    | hit document => exact absurd hget (hhit document)
    | knownAbsent => exact absurd hget habsent
    | miss => rfl

/-- A fetch that brings nothing to remember leaves the cache as it was looked up. -/
theorem slot_obtainKeys_of_not_brings {s : VerifierState} {limit : Span} {realm : String}
    {course : FetchCourse} (hfetched : (s.obtainKeys limit realm course).2.1 = [realm])
    (hbrings : ∀ document, ¬ Brings (course.result limit) document) :
    (s.obtainKeys limit realm course).2.2.slot = (s.get realm).2.slot := by
  rcases s.obtainKeys_cases limit realm course with
    ⟨document, -, hobtain⟩ | ⟨-, hobtain⟩ | ⟨-, -, hobtain⟩
  · rw [hobtain] at hfetched
    cases hfetched
  · rw [hobtain] at hfetched
    cases hfetched
  · rw [hobtain]
    rcases settleKeys_slot (s.get realm).2.slot (s.now + course.elapsed limit) realm
        (course.result limit) with hkept | ⟨document, hbrought, -⟩
    · exact hkept
    · exact absurd hbrought (hbrings document)

/-- After such a fetch the cache still knows nothing of the realm, however much later. -/
theorem get_after_failure {s : VerifierState} {limit : Span} {realm : String}
    {course : FetchCourse} (hfetched : (s.obtainKeys limit realm course).2.1 = [realm])
    (hbrings : ∀ document, ¬ Brings (course.result limit) document) (nanoseconds : Nat)
    {found : Lookup String}
    (hget : (((s.obtainKeys limit realm course).2.2.advance nanoseconds).get realm).1 =
      .ok found) : found = .miss := by
  have hslot := slot_obtainKeys_of_not_brings hfetched hbrings
  have hle := s.now_le_obtainKeys limit realm course
  have hmiss := fetches_obtainKeys_iff.mp hfetched
  generalize (s.obtainKeys limit realm course).2.2 = after at hslot hle hget
  have hsame : (s.slot.get (after.now + nanoseconds) realm).1 = .ok found := by
    rw [← Slot.get_get s.slot s.now]
    change (after.slot.get (after.now + nanoseconds) realm).1 = .ok found at hget
    rwa [hslot] at hget
  by_contra hknown
  exact hknown (hmiss found (Slot.get_of_le (Nat.le_add_right_of_le hle) hsame hknown))

/-- So the next verification asks again. -/
theorem fetches_after_failure {s : VerifierState} {token realm : String} {course : FetchCourse}
    (hfetched : (s.verify secondsAt settings token realm course).fetches = [realm])
    (hbrings : ∀ document, ¬ Brings (course.result settings.requestTimeout) document)
    (nanoseconds : Nat) {token' : String} (course' : FetchCourse) {parts : Parts × Header}
    (hheader' : readHeader token' = .ok parts) :
    (((s.verify secondsAt settings token realm course).state.advance nanoseconds).verify
      secondsAt settings token' realm course').fetches = [realm] := by
  rw [verify_of_readHeader hheader']
  cases hheader : readHeader token with
  | error e =>
      rw [verify_of_readHeader_error hheader] at hfetched
      cases hfetched
  | ok parts =>
      rw [verify_of_readHeader hheader] at hfetched ⊢
      exact fetches_obtainKeys_iff.mpr fun found hget =>
        get_after_failure hfetched hbrings nanoseconds hget

/-- What the cache of a run knows to be missing has been stored so by the run since the cache
was installed last, and has not reached its lifetime. -/
theorem stored_of_knownAbsent {now : Moment} {history : List VerifierEvent} {realm : String}
    (h : (((start now).run secondsAt settings history).get realm).1 = .ok .knownAbsent) :
    ∃ cacheSettings moment,
      (start now).Stored secondsAt settings history cacheSettings realm none moment ∧
      ((start now).run secondsAt settings history).now - moment <
        cacheSettings.absentTtl.nanoseconds := by
  obtain ⟨cacheSettings, -, hbacked⟩ := backed_of_get h
  obtain ⟨moment, hstored, hyoung⟩ := hbacked.noted_of_knownAbsent h
  exact ⟨cacheSettings, moment, hstored, hyoung⟩

/-- Which upstream errors last, whatever a verifier has gone through.  An upstream error is
given without a fetch if and only if the cache knows the realm not to exist, or has a document
of it that is unusable for the token.  The one has been stored less than the lifetime of such
knowledge ago, after the identity provider has said so, and the other less than the lifetime of
documents ago.  After a fetch that brings neither, the next verification asks again. -/
theorem upstream_error_lasts_over_documents (secondsAt : Moment → Nat)
    (settings : VerifierSettings) (now : Moment) (history : List VerifierEvent)
    (token realm : String) (course : FetchCourse) :
    let s := (start now).run secondsAt settings history
    let v := s.verify secondsAt settings token realm course
    (v.fetches = [] ∧ (∃ e, v.result = .error e ∧ e.isUpstream = true) ↔
      ∃ p h, readHeader token = .ok (p, h) ∧
        ((s.get realm).1 = .ok .knownAbsent ∨
          ∃ document, (s.get realm).1 = .ok (.hit document) ∧ Unusable h document)) ∧
    ((s.get realm).1 = .ok .knownAbsent →
      ∃ cacheSettings moment,
        (start now).Stored secondsAt settings history cacheSettings realm none moment ∧
        moment ≤ s.now ∧
        s.now - moment <
          cacheSettings.absentTtl.nanoseconds) ∧
    (∀ document, (s.get realm).1 = .ok (.hit document) →
      ∃ cacheSettings moment,
        (start now).Stored secondsAt settings history cacheSettings realm (some document)
          moment ∧
        moment ≤ s.now ∧
        s.now - moment <
          cacheSettings.presentTtl.nanoseconds) ∧
    (v.fetches = [realm] →
      (∀ document, ¬ Brings (course.result settings.requestTimeout) document) →
      ∀ nanoseconds token' course' parts, readHeader token' = .ok parts →
        ((v.state.advance nanoseconds).verify secondsAt settings token' realm course').fetches =
          [realm]) := by
  intro s v
  refine ⟨silent_failsUpstream_iff, ?_, ?_, ?_⟩
  · intro habsent
    obtain ⟨cacheSettings, moment, hstored, hyoung⟩ := stored_of_knownAbsent habsent
    exact ⟨cacheSettings, moment, hstored, hstored.moment_le, hyoung⟩
  · intro document hhit
    obtain ⟨cacheSettings, moment, hstored, hyoung⟩ := stored_of_hit hhit
    exact ⟨cacheSettings, moment, hstored, hstored.moment_le, hyoung⟩
  · intro hfetched hbrings nanoseconds token' course' parts hheader'
    exact fetches_after_failure hfetched hbrings nanoseconds course' hheader'

/-- The fetch of the keys gives a page that is no key set. -/
def Sample.maintenance : FetchCourse := ⟨0, .ok "<html>maintenance</html>"⟩

/-- A page that is no key set is remembered.  Over it the verifier gives an upstream error for
a token that is good, although the realm is not known to be missing and the identity provider,
if it were asked, would give the right keys by now. -/
theorem unreadable_document_lasts :
    let s := (start 0).run Sample.date .default
      [.install Cache.Settings.default, .verify Sample.token "diku" Sample.maintenance]
    let v := s.verify Sample.date .default Sample.token "diku" Sample.course
    v.fetches = [] ∧ (∃ e, v.result = .error e ∧ e.isUpstream = true) ∧
      (s.get "diku").1 ≠ .ok .knownAbsent := by
  intro s v
  have hdocument : (s.get "diku").1 = .ok (.hit "<html>maintenance</html>") := by
    decide +kernel
  obtain ⟨⟨p, h⟩, hheader, -⟩ : ∃ parts,
      readHeader Sample.token = .ok parts ∧ parts.2.keyId = some "a" := by
    apply ok_of_toOption
    decide +kernel
  have hunread : KeySet.read? "<html>maintenance</html>" = none := by decide +kernel
  have hsilent : v.fetches = [] ∧ FailsUpstream v.result :=
    silent_failsUpstream_iff.mpr ⟨p, h, hheader, Or.inr ⟨_, hdocument, Or.inl hunread⟩⟩
  refine ⟨hsilent.1, hsilent.2, ?_⟩
  rw [hdocument]
  intro habsent
  cases habsent

end VerifierState
end Token
end PatronGateway
