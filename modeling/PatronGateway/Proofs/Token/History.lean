import Mathlib.Data.List.Induction
import PatronGateway.Proofs.Cache.Backing
import PatronGateway.Proofs.Token.Acceptance

/-!
# The history of a verifier

A verifier and its cache of keys go through verifications, puts, lookups, installations
and the passing of time, in any order.  `Stored` says which documents such a history has
put into the cache since it was installed last, and when.

* `step_slot` says what a single step can do to the cache.
* `run_backed` is the invariant of a whole run: there is no cache yet, or its entries
  have all been stored since it was installed.
-/

namespace PatronGateway
namespace Token

open Cache (KeySlot Lookup Moment Slot)

/-- What can happen to a verifier. -/
inductive VerifierEvent where
  | verify (token realm : String) (course : FetchCourse)
  | put (realm : String) (document : Option String)
  | get (realm : String)
  | install (settings : Cache.Settings)
  | advance (nanoseconds : Nat)

/-- Whether the cache is installed anew. -/
def VerifierEvent.isInstall : VerifierEvent → Bool
  | install _ => true
  | _ => false

/-- Whether a fetch brings a document, or the knowledge that there is none. -/
inductive Brings : Except FetchError String → Option String → Prop
  | document (text : String) : Brings (.ok text) (some text)
  | absent (realm : String) : Brings (.error (.notFound realm)) none

namespace VerifierState

/-- A verifier whose cache has not been installed. -/
def start (now : Moment) : VerifierState := ⟨Slot.vacant KeySlot.name, now⟩

section

variable (secondsAt : Moment → Nat) (settings : VerifierSettings)

/-- One step. -/
def step (s : VerifierState) : VerifierEvent → VerifierState
  | .verify token realm course => (s.verify secondsAt settings token realm course).state
  | .put realm document => (s.put realm document).2
  | .get realm => (s.get realm).2
  | .install cacheSettings => s.install cacheSettings
  | .advance nanoseconds => s.advance nanoseconds

/-- Many steps. -/
def run (s : VerifierState) (history : List VerifierEvent) : VerifierState :=
  history.foldl (step secondsAt settings) s

/-- Whether a step asks for a document to be kept for a realm: a verification that has
fetched it for that realm, or a put. -/
def Offers (s : VerifierState) (realm : String) (document : Option String) :
    VerifierEvent → Prop
  | .verify token realm' course =>
      (s.verify secondsAt settings token realm' course).fetches = [realm] ∧
        Brings (course.result settings.requestTimeout) document
  | .put realm' document' => realm' = realm ∧ document' = document
  | _ => False

/-- Whether a step stores a document for a realm, which it does only if the cache knows
nothing of the realm. -/
def Stores (s : VerifierState) (realm : String) (document : Option String)
    (e : VerifierEvent) : Prop :=
  (s.get realm).1 = .ok .miss ∧ s.Offers secondsAt settings realm document e

/-- The cache of a history was installed last with these settings. -/
def LastInstall (history : List VerifierEvent) (cacheSettings : Cache.Settings) : Prop :=
  ∃ early recent, history = early ++ .install cacheSettings :: recent ∧
    ∀ e ∈ recent, e.isInstall = false

/-- A history that begins at `s` has stored a document for a realm at a moment, since the
cache was installed last, with the given settings. -/
def Stored (s : VerifierState) (history : List VerifierEvent) (cacheSettings : Cache.Settings)
    (realm : String) (document : Option String) (moment : Moment) : Prop :=
  ∃ early recent event late,
    history = early ++ .install cacheSettings :: (recent ++ event :: late) ∧
    (∀ e ∈ recent ++ event :: late, e.isInstall = false) ∧
    (s.run secondsAt settings (early ++ .install cacheSettings :: recent)).Stores
      secondsAt settings realm document event ∧
    moment =
      (s.run secondsAt settings (early ++ .install cacheSettings :: (recent ++ [event]))).now

end

section

variable {secondsAt : Moment → Nat} {settings : VerifierSettings}

theorem run_append (s : VerifierState) (history : List VerifierEvent) (e : VerifierEvent) :
    s.run secondsAt settings (history ++ [e]) =
      (s.run secondsAt settings history).step secondsAt settings e := by
  simp [run]

theorem isInstall_append {recent : List VerifierEvent}
    (h : ∀ e ∈ recent, e.isInstall = false) {e : VerifierEvent} (he : e.isInstall = false) :
    ∀ e' ∈ recent ++ [e], e'.isInstall = false := by
  intro e' he'
  rcases List.mem_append.mp he' with hold | hnew
  · exact h e' hold
  · rw [List.mem_singleton.mp hnew]
    exact he

theorem LastInstall.append {history : List VerifierEvent} {cacheSettings : Cache.Settings}
    (h : LastInstall history cacheSettings) {e : VerifierEvent} (he : e.isInstall = false) :
    LastInstall (history ++ [e]) cacheSettings := by
  obtain ⟨early, recent, rfl, hrecent⟩ := h
  exact ⟨early, recent ++ [e], by simp, isInstall_append hrecent he⟩

theorem Stored.append {s : VerifierState} {history : List VerifierEvent}
    {cacheSettings : Cache.Settings} {realm : String} {document : Option String}
    {moment : Moment} (h : s.Stored secondsAt settings history cacheSettings realm document moment)
    {e : VerifierEvent} (he : e.isInstall = false) :
    s.Stored secondsAt settings (history ++ [e]) cacheSettings realm document moment := by
  obtain ⟨early, recent, event, late, rfl, hrecent, hstores, hmoment⟩ := h
  refine ⟨early, recent, event, late ++ [e], by simp, ?_, hstores, hmoment⟩
  rw [← List.cons_append, ← List.append_assoc]
  exact isInstall_append hrecent he

/-- A step that stores a document makes its history one that has stored it. -/
theorem stored_of_stores {s : VerifierState} {history : List VerifierEvent}
    {cacheSettings : Cache.Settings} (hlast : LastInstall history cacheSettings)
    {e : VerifierEvent} (he : e.isInstall = false) {realm : String} {document : Option String}
    (h : (s.run secondsAt settings history).Stores secondsAt settings realm document e) :
    s.Stored secondsAt settings (history ++ [e]) cacheSettings realm document
      (s.run secondsAt settings (history ++ [e])).now := by
  obtain ⟨early, recent, rfl, hrecent⟩ := hlast
  exact ⟨early, recent, e, [], by simp, isInstall_append hrecent he, h, by simp⟩

/-- All that can come of obtaining keys: the cache gives the document, or knows that there
is none, or a fetch is made. -/
theorem obtainKeys_cases (s : VerifierState) (limit : Time.Span) (realm : String)
    (course : FetchCourse) :
    (∃ document, (s.get realm).1 = .ok (.hit document) ∧
      s.obtainKeys limit realm course = (.ok document, [], (s.get realm).2)) ∨
    ((s.get realm).1 = .ok .knownAbsent ∧
      s.obtainKeys limit realm course = (.error (realmNotFound realm), [], (s.get realm).2)) ∨
    ((∀ document, (s.get realm).1 ≠ .ok (.hit document)) ∧
      (s.get realm).1 ≠ .ok .knownAbsent ∧
      s.obtainKeys limit realm course =
        let now := s.now + course.elapsed limit
        let settled := settleKeys (s.get realm).2.slot now realm (course.result limit)
        (settled.1, [realm], ⟨settled.2, now⟩)) := by
  unfold obtainKeys consultKeys get
  obtain ⟨result, slot⟩ := s.slot.get s.now realm
  cases result with
  | error e => exact Or.inr (Or.inr ⟨by simp, by simp, rfl⟩)
  | ok found =>
      cases found with
      | hit document => exact Or.inl ⟨document, rfl, rfl⟩
      | knownAbsent => exact Or.inr (Or.inl ⟨rfl, rfl⟩)
      | miss => exact Or.inr (Or.inr ⟨by simp, by simp, rfl⟩)

/-- What a fetch has brought is put into the cache, and nothing else is. -/
theorem settleKeys_slot (slot : KeySlot) (now : Moment) (realm : String)
    (fetched : Except FetchError String) :
    (settleKeys slot now realm fetched).2 = slot ∨
    ∃ document, Brings fetched document ∧
      (settleKeys slot now realm fetched).2 = (slot.put now realm document).2 := by
  cases fetched with
  | ok text => exact Or.inr ⟨some text, .document text, rfl⟩
  | error e =>
      cases e with
      | notFound realm' => exact Or.inr ⟨none, .absent realm', rfl⟩
      | timeout => exact Or.inl rfl
      | status n => exact Or.inl rfl
      | network m => exact Or.inl rfl
      | tooLarge limit => exact Or.inl rfl
      | invalidUrl detail => exact Or.inl rfl

/-- All that a verification can do to the cache: it may look the realm up, and if nothing
is known of it, put in what a fetch has brought. -/
theorem verify_slot (s : VerifierState) (token realm : String) (course : FetchCourse)
    {v : Verification} (hv : s.verify secondsAt settings token realm course = v) :
    v.state.slot = s.slot ∨ v.state.slot = (s.get realm).2.slot ∨
    ∃ document, (s.get realm).1 = .ok .miss ∧ v.fetches = [realm] ∧
      Brings (course.result settings.requestTimeout) document ∧
      v.state.slot = ((s.get realm).2.slot.put v.state.now realm document).2 := by
  cases hheader : readHeader token with
  | error e =>
      rw [verify_of_readHeader_error hheader] at hv
      subst hv
      exact Or.inl rfl
  | ok parts =>
      rw [verify_of_readHeader hheader] at hv
      rcases s.obtainKeys_cases settings.requestTimeout realm course with
        ⟨document, -, hobtain⟩ | ⟨-, hobtain⟩ | ⟨hhit, habsent, hobtain⟩
      · rw [hobtain] at hv
        subst hv
        exact Or.inr (Or.inl rfl)
      · rw [hobtain] at hv
        subst hv
        exact Or.inr (Or.inl rfl)
      · rw [hobtain] at hv
        subst hv
        rcases settleKeys_slot (s.get realm).2.slot
            (s.now + course.elapsed settings.requestTimeout) realm
            (course.result settings.requestTimeout) with hkept | ⟨document, hbrings, hput⟩
        · exact Or.inr (Or.inl hkept)
        · cases hfound : (s.get realm).1 with
          | ok found =>
              cases found with
              | hit document => exact absurd hfound (hhit document)
              | knownAbsent => exact absurd hfound habsent
              | miss => exact Or.inr (Or.inr ⟨document, rfl, rfl, hbrings, hput⟩)
          | error e =>
              -- without a cache there is nothing to put the document into
              have hnone : (s.get realm).2.slot.isInitialized = false :=
                Slot.isInitialized_of_get_error hfound
              refine Or.inr (Or.inl (hput.trans (Slot.put_eq_self document ?_)))
              rw [Slot.get_of_isInitialized_false hnone]
              simp

/-- All that a step can do to the cache, unless it installs it: it may look something up,
and then it may put in a document that it stores. -/
theorem step_slot (s : VerifierState) {e : VerifierEvent} (he : e.isInstall = false) :
    ∃ looked, (looked = s.slot ∨ ∃ realm, looked = (s.get realm).2.slot) ∧
      ((s.step secondsAt settings e).slot = looked ∨
        ∃ realm document, s.Stores secondsAt settings realm document e ∧
          (s.step secondsAt settings e).slot =
            (looked.put (s.step secondsAt settings e).now realm document).2) := by
  cases e with
  | verify token realm course =>
      rcases verify_slot s token realm course rfl with
        hsame | hlooked | ⟨document, hmiss, hfetches, hbrings, hput⟩
      · exact ⟨s.slot, Or.inl rfl, Or.inl hsame⟩
      · exact ⟨_, Or.inr ⟨realm, rfl⟩, Or.inl hlooked⟩
      · exact ⟨_, Or.inr ⟨realm, rfl⟩,
          Or.inr ⟨realm, document, ⟨hmiss, hfetches, hbrings⟩, hput⟩⟩
  | put realm document =>
      refine ⟨s.slot, Or.inl rfl, ?_⟩
      by_cases hmiss : (s.get realm).1 = .ok .miss
      · exact Or.inr ⟨realm, document, ⟨hmiss, rfl, rfl⟩, rfl⟩
      · exact Or.inl (Slot.put_eq_self document hmiss)
  | get realm => exact ⟨_, Or.inr ⟨realm, rfl⟩, Or.inl rfl⟩
  | install cacheSettings => cases he
  | advance nanoseconds => exact ⟨s.slot, Or.inl rfl, Or.inl rfl⟩

/-- A step brings no cache unless it installs one. -/
theorem isInitialized_step (s : VerifierState) {e : VerifierEvent} (he : e.isInstall = false) :
    (s.step secondsAt settings e).slot.isInitialized = s.slot.isInitialized := by
  obtain ⟨looked, hlooked, hslot⟩ := @step_slot secondsAt settings s e he
  have hsame : looked.isInitialized = s.slot.isInitialized := by
    rcases hlooked with rfl | ⟨realm, rfl⟩
    · rfl
    · exact Slot.isInitialized_get s.slot s.now realm
  rcases hslot with hslot | ⟨realm, document, -, hslot⟩
  · rw [hslot, hsame]
  · rw [hslot, Slot.isInitialized_put, hsame]

/-- A step keeps the cache backed by a record that notes what the step stores. -/
theorem backed_step (s : VerifierState) {e : VerifierEvent} (he : e.isInstall = false)
    {cacheSettings : Cache.Settings} {noted : String → Option String → Moment → Prop}
    (h : s.slot.Backed cacheSettings noted)
    (hstores : ∀ realm document, s.Stores secondsAt settings realm document e →
      noted realm document (s.step secondsAt settings e).now) :
    (s.step secondsAt settings e).slot.Backed cacheSettings noted := by
  obtain ⟨looked, hlooked, hslot⟩ := @step_slot secondsAt settings s e he
  have hbacked : looked.Backed cacheSettings noted := by
    rcases hlooked with rfl | ⟨realm, rfl⟩
    · exact h
    · exact h.get s.now realm
  rcases hslot with hslot | ⟨realm, document, hstored, hslot⟩
  · rw [hslot]
    exact hbacked
  · rw [hslot]
    exact hbacked.put (fun _ => hstores realm document hstored)

/-- The invariant of a run: either the cache has never been installed, or what it holds
has all been stored since it was installed last. -/
theorem run_backed (now : Moment) (history : List VerifierEvent) :
    ((start now).run secondsAt settings history).slot.isInitialized = false ∨
    ∃ cacheSettings, LastInstall history cacheSettings ∧
      ((start now).run secondsAt settings history).slot.Backed cacheSettings
        ((start now).Stored secondsAt settings history cacheSettings) := by
  -- on the history from its end, since a step is taken after all others
  induction history using List.reverseRecOn with
  | nil => exact Or.inl rfl
  | append_singleton history e ih =>
      rw [run_append]
      cases hinstall : e.isInstall with
      | true =>
          cases e with
          | install cacheSettings =>
              exact Or.inr ⟨cacheSettings, ⟨history, [], rfl, by simp⟩,
                Slot.Backed.install _ _ _⟩
          | verify token realm course => cases hinstall
          | put realm document => cases hinstall
          | get realm => cases hinstall
          | advance nanoseconds => cases hinstall
      | false =>
          rcases ih with hnone | ⟨cacheSettings, hlast, hbacked⟩
          · exact Or.inl ((isInitialized_step _ hinstall).trans hnone)
          · refine Or.inr ⟨cacheSettings, hlast.append hinstall, ?_⟩
            apply backed_step _ hinstall
            · exact hbacked.mono fun realm document moment hstored => hstored.append hinstall
            · intro realm document hstores
              rw [← run_append]
              exact stored_of_stores hlast hinstall hstores

/-- A cache that answers at all is backed by the history. -/
theorem backed_of_get {now : Moment} {history : List VerifierEvent} {realm : String}
    {found : Lookup String}
    (h : (((start now).run secondsAt settings history).get realm).1 = .ok found) :
    ∃ cacheSettings, LastInstall history cacheSettings ∧
      ((start now).run secondsAt settings history).slot.Backed cacheSettings
        ((start now).Stored secondsAt settings history cacheSettings) := by
  rcases @run_backed secondsAt settings now history with hnone | hbacked
  · have hget := Slot.get_of_isInitialized_false hnone
      ((start now).run secondsAt settings history).now realm
    unfold get at h
    rw [hget] at h
    cases h
  · exact hbacked

end

end VerifierState
end Token
end PatronGateway
