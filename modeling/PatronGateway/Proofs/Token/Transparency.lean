import PatronGateway.Proofs.Token.History

/-!
# The cache of keys does not show

Where the keys of a realm always take the same course to be fetched, and nobody but the
verifier writes into its cache, a verification comes out as it would without any cache.  What
has been remembered, forgotten or dropped before shows only in what is fetched.

* `brings_of_stored` is the invariant: what such a history has stored is what the realm's fetch
  brings.
* `result_eq_uncached` compares a verification after any history with one that has no cache.
-/

namespace PatronGateway
namespace Token

open Cache (KeySlot Moment Slot)
open Time (Span)

/-- What can happen to a verifier whose cache nobody else writes into. -/
inductive SoleEvent where
  | verify (token realm : String)
  | get (realm : String)
  | install (settings : Cache.Settings)
  | advance (nanoseconds : Nat)

/-- The event, where the realm settles the course of every fetch. -/
def SoleEvent.toEvent (script : String → FetchCourse) : SoleEvent → VerifierEvent
  | verify token realm => .verify token realm (script realm)
  | get realm => .get realm
  | install settings => .install settings
  | advance nanoseconds => .advance nanoseconds

namespace VerifierState

/-- Neither the cache nor the moment has a part in what a fetch gives. -/
theorem settleKeys_fst (slot slot' : KeySlot) (now now' : Moment) (realm : String)
    (fetched : Except FetchError String) :
    (settleKeys slot now realm fetched).1 = (settleKeys slot' now' realm fetched).1 := by
  cases fetched with
  | ok text => rfl
  | error e => cases e <;> rfl

/-- Two verifications that obtain the same keys come out alike on the same date. -/
theorem result_verify_congr {secondsAt secondsAt' : Moment → Nat} {settings : VerifierSettings}
    {s s' : VerifierState} {token realm : String} {course course' : FetchCourse}
    (hkeys : (s.obtainKeys settings.requestTimeout realm course).1 =
      (s'.obtainKeys settings.requestTimeout realm course').1)
    (hdate : secondsAt (s.verify secondsAt settings token realm course).state.now =
      secondsAt' (s'.verify secondsAt' settings token realm course').state.now) :
    (s.verify secondsAt settings token realm course).result =
      (s'.verify secondsAt' settings token realm course').result := by
  cases hheader : readHeader token with
  | error e => rw [verify_of_readHeader_error hheader, verify_of_readHeader_error hheader]
  | ok parts =>
      obtain ⟨p, h⟩ := parts
      rw [verify_of_readHeader hheader, verify_of_readHeader hheader] at hdate ⊢
      dsimp only at hdate ⊢
      rw [hkeys, hdate]

section

variable {secondsAt : Moment → Nat} {settings : VerifierSettings} {script : String → FetchCourse}

/-- A verification fetches the keys of its realm, or nothing. -/
theorem fetches_verify (s : VerifierState) (token realm : String) (course : FetchCourse) :
    (s.verify secondsAt settings token realm course).fetches = [] ∨
      (s.verify secondsAt settings token realm course).fetches = [realm] := by
  cases hheader : readHeader token with
  | error e =>
      rw [verify_of_readHeader_error hheader]
      exact Or.inl rfl
  | ok parts =>
      rw [verify_of_readHeader hheader]
      rcases s.obtainKeys_cases settings.requestTimeout realm course with
        ⟨_, -, hobtain⟩ | ⟨-, hobtain⟩ | ⟨-, -, hobtain⟩
      · rw [hobtain]
        exact Or.inl rfl
      · rw [hobtain]
        exact Or.inl rfl
      · rw [hobtain]
        exact Or.inr rfl

/-- Without a cache a token whose header can be read always causes a fetch. -/
theorem fetches_verify_start (now : Moment) (token realm : String) (course : FetchCourse)
    {parts : Parts × Header} (hheader : readHeader token = .ok parts) :
    ((start now).verify secondsAt settings token realm course).fetches = [realm] := by
  rw [verify_of_readHeader hheader]
  rfl

/-- What a verifier has stored that nobody else writes for is what the realm's fetch brings. -/
theorem brings_of_stored {s : VerifierState} {history : List SoleEvent}
    {cacheSettings : Cache.Settings} {realm : String} {document : Option String}
    {moment : Moment}
    (h : s.Stored secondsAt settings (history.map (SoleEvent.toEvent script)) cacheSettings realm
      document moment) :
    Brings ((script realm).result settings.requestTimeout) document := by
  obtain ⟨early, recent, event, late, hhistory, -, ⟨-, hoffers⟩, -⟩ := h
  have hmem : event ∈ history.map (SoleEvent.toEvent script) := by
    rw [hhistory]
    simp
  obtain ⟨e, -, rfl⟩ := List.mem_map.mp hmem
  cases e with
  | verify token realm' =>
      obtain ⟨hfetches, hbrings⟩ := hoffers
      rcases fetches_verify _ token realm' (script realm') with hnone | hone
      · rw [hnone] at hfetches
        cases hfetches
      · rw [hone] at hfetches
        obtain rfl : realm' = realm := by simpa using hfetches
        exact hbrings
  | get realm' => exact hoffers.elim
  | install cacheSettings' => exact hoffers.elim
  | advance nanoseconds => exact hoffers.elim

/-- Whatever such a verifier has gone through, its cache agrees with the fetches. -/
theorem brings_of_get (now : Moment) (history : List SoleEvent) (realm : String) :
    let s := (start now).run secondsAt settings (history.map (SoleEvent.toEvent script))
    let fetched := (script realm).result settings.requestTimeout
    (∀ document, (s.get realm).1 = .ok (.hit document) → Brings fetched (some document)) ∧
    ((s.get realm).1 = .ok .knownAbsent → Brings fetched none) := by
  intro s fetched
  constructor
  · intro document hhit
    obtain ⟨cacheSettings, -, hbacked⟩ := backed_of_get hhit
    obtain ⟨moment, hstored, -⟩ := hbacked.noted_of_hit hhit
    exact brings_of_stored hstored
  · intro habsent
    obtain ⟨cacheSettings, -, hbacked⟩ := backed_of_get habsent
    obtain ⟨moment, hstored, -⟩ := hbacked.noted_of_knownAbsent habsent
    exact brings_of_stored hstored

/-- The keys that such a verifier obtains are those that a fetch gives. -/
theorem obtainKeys_eq_settleKeys (now : Moment) (history : List SoleEvent) (realm : String)
    (slot : KeySlot) (moment : Moment) :
    (((start now).run secondsAt settings (history.map (SoleEvent.toEvent script))).obtainKeys
        settings.requestTimeout realm (script realm)).1 =
      (settleKeys slot moment realm ((script realm).result settings.requestTimeout)).1 := by
  obtain ⟨hdocument, habsent⟩ := @brings_of_get secondsAt settings script now history realm
  -- of the history only the agreement of the cache with the fetch is needed
  generalize (start now).run secondsAt settings (history.map (SoleEvent.toEvent script)) = s
    at hdocument habsent ⊢
  rcases s.obtainKeys_cases settings.requestTimeout realm (script realm) with
    ⟨document, hget, hobtain⟩ | ⟨hget, hobtain⟩ | ⟨-, -, hobtain⟩
  · rw [hobtain]
    have hbrings := hdocument document hget
    generalize (script realm).result settings.requestTimeout = fetched at hbrings ⊢
    cases hbrings
    rfl
  · rw [hobtain]
    have hbrings := habsent hget
    generalize (script realm).result settings.requestTimeout = fetched at hbrings ⊢
    cases hbrings
    rfl
  · rw [hobtain]
    exact settleKeys_fst _ _ _ _ _ _

/-- Whatever a verifier has gone through, with whatever caches, it gives the same claims for
a token, or the same error, as one that has no cache and checks on the same date.  Only what
is fetched may differ: a verifier with a cache fetches what the other one does, or nothing. -/
theorem result_eq_uncached (secondsAt secondsAt' : Moment → Nat) (settings : VerifierSettings)
    (script : String → FetchCourse) (now now' : Moment) (history : List SoleEvent)
    (token realm : String) :
    let s := (start now).run secondsAt settings (history.map (SoleEvent.toEvent script))
    let cached := s.verify secondsAt settings token realm (script realm)
    let uncached := (start now').verify secondsAt' settings token realm (script realm)
    secondsAt cached.state.now = secondsAt' uncached.state.now →
      cached.result = uncached.result ∧
        (cached.fetches = uncached.fetches ∨ cached.fetches = []) := by
  intro s cached uncached hdate
  refine ⟨result_verify_congr (obtainKeys_eq_settleKeys now history realm _ _) hdate, ?_⟩
  cases hheader : readHeader token with
  | error e =>
      refine Or.inr ?_
      show (s.verify secondsAt settings token realm (script realm)).fetches = []
      rw [verify_of_readHeader_error hheader]
  | ok parts =>
      rcases s.fetches_verify token realm (script realm) with hnone | hone
      · exact Or.inr hnone
      · exact Or.inl (hone.trans (fetches_verify_start now' token realm _ hheader).symm)

end

/-- Two realms, one of which has keys while the other does not exist. -/
def Sample.script (realm : String) : FetchCourse :=
  if realm = "diku" then ⟨500000000, .ok Sample.document⟩
  else ⟨500000000, .error (.notFound realm)⟩

/-- A history in which the cache has room for one realm only, and is installed anew. -/
def crowdedHistory : List SoleEvent :=
  [.install ⟨1, Span.ofSeconds 60, Span.ofSeconds 5⟩, .verify Sample.token "diku",
    .verify Sample.token "other", .verify Sample.token "diku", .advance 1000000000,
    .install Cache.Settings.default, .verify Sample.token "diku"]

/-- A token that is checked over a document from the cache comes out as it would without one. -/
theorem result_eq_uncached_crowded :
    let s := (start 0).run Sample.date Sample.settings
      (crowdedHistory.map (SoleEvent.toEvent Sample.script))
    let cached := s.verify Sample.date Sample.settings Sample.token "diku" (Sample.script "diku")
    let uncached := (start 0).verify Sample.date Sample.settings Sample.token "diku"
      (Sample.script "diku")
    Sample.date cached.state.now = Sample.date uncached.state.now ∧
      cached.result = uncached.result ∧ cached.fetches = [] := by
  intro s cached uncached
  -- The date stands still here, so that neither run has to be gone through to compare them.
  have hdate : ∀ moment moment', Sample.date moment = Sample.date moment' := fun _ _ => rfl
  have hsame := (result_eq_uncached Sample.date Sample.date Sample.settings Sample.script 0 0
    crowdedHistory Sample.token "diku" (hdate _ _)).1
  have hfetches : cached.fetches = [] := by decide +kernel
  exact ⟨hdate _ _, hsame, hfetches⟩

end VerifierState
end Token
end PatronGateway
