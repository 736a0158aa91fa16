import PatronGateway.Proofs.Token.History

/-!
# Accepted tokens are backed by keys of their realm

Whatever has happened to a verifier before, it accepts a token only over a document that
it has just fetched for the realm, or that has been stored for that realm not too long
ago, and only with all the evidence that such a document can give.

* `document_of_obtainKeys` says where the document of a verification comes from.
* `accepted_has_evidence` is the soundness of verification over whole runs.
-/

namespace PatronGateway
namespace Token
namespace VerifierState

open Cache (KeySlot Moment)
open Time (Span)

section

variable {secondsAt : Moment → Nat} {settings : VerifierSettings}

/-- A document that a fetch gives is the one that was fetched. -/
theorem settleKeys_eq_ok {slot : KeySlot} {now : Moment} {realm document : String}
    {fetched : Except FetchError String}
    (h : (settleKeys slot now realm fetched).1 = .ok document) : fetched = .ok document := by
  cases fetched with
  | ok text =>
      cases h
      rfl
  | error e => cases e <;> cases h

/-- The document of a verification is in the cache, or a fetch has given it. -/
theorem document_of_obtainKeys {s : VerifierState} {limit : Span} {realm document : String}
    {course : FetchCourse} (h : (s.obtainKeys limit realm course).1 = .ok document) :
    ((s.obtainKeys limit realm course).2.1 = [realm] ∧ course.result limit = .ok document) ∨
    ((s.obtainKeys limit realm course).2.1 = [] ∧ (s.get realm).1 = .ok (.hit document)) := by
  rcases s.obtainKeys_cases limit realm course with
    ⟨found, hhit, hobtain⟩ | ⟨-, hobtain⟩ | ⟨-, -, hobtain⟩
  · rw [hobtain] at h ⊢
    obtain rfl : found = document := Except.ok.inj h
    exact Or.inr ⟨rfl, hhit⟩
  · rw [hobtain] at h
    cases h
  · rw [hobtain] at h ⊢
    exact Or.inl ⟨rfl, settleKeys_eq_ok h⟩

theorem now_le_obtainKeys (s : VerifierState) (limit : Span) (realm : String)
    (course : FetchCourse) : s.now ≤ (s.obtainKeys limit realm course).2.2.now := by
  rcases s.obtainKeys_cases limit realm course with
    ⟨_, _, hobtain⟩ | ⟨_, hobtain⟩ | ⟨_, _, hobtain⟩
  · rw [hobtain]
    exact Nat.le_refl s.now
  · rw [hobtain]
    exact Nat.le_refl s.now
  · rw [hobtain]
    exact Nat.le_add_right s.now _

/-- Time does not go back. -/
theorem now_le_step (s : VerifierState) (e : VerifierEvent) :
    s.now ≤ (s.step secondsAt settings e).now := by
  cases e with
  | verify token realm course =>
      show s.now ≤ (s.verify secondsAt settings token realm course).state.now
      cases hheader : readHeader token with
      | error e => exact Nat.le_of_eq (by rw [verify_of_readHeader_error hheader])
      | ok parts =>
          rw [verify_of_readHeader hheader]
          exact s.now_le_obtainKeys _ _ _
  | put realm document => exact Nat.le_refl s.now
  | get realm => exact Nat.le_refl s.now
  | install cacheSettings => exact Nat.le_refl s.now
  | advance nanoseconds => exact Nat.le_add_right s.now nanoseconds

theorem now_le_run (s : VerifierState) (history : List VerifierEvent) :
    s.now ≤ (s.run secondsAt settings history).now := by
  induction history generalizing s with
  | nil => exact Nat.le_refl s.now
  | cons e rest ih => exact Nat.le_trans (s.now_le_step e) (ih _)

/-- What a history has stored lies in its past. -/
theorem Stored.moment_le {s : VerifierState} {history : List VerifierEvent}
    {cacheSettings : Cache.Settings} {realm : String} {document : Option String}
    {moment : Moment}
    (h : s.Stored secondsAt settings history cacheSettings realm document moment) :
    moment ≤ (s.run secondsAt settings history).now := by
  obtain ⟨early, recent, event, late, rfl, -, -, rfl⟩ := h
  -- the moment is the one after the event, and `late` has happened since
  have hsplit : s.run secondsAt settings
        (early ++ .install cacheSettings :: (recent ++ event :: late)) =
      (s.run secondsAt settings
        (early ++ .install cacheSettings :: (recent ++ [event]))).run secondsAt settings late := by
    simp [run]
  rw [hsplit]
  exact now_le_run _ late

/-- What the cache of a run gives has been stored by the run since the cache was installed
last, and has not reached its lifetime. -/
theorem stored_of_hit {now : Moment} {history : List VerifierEvent} {realm document : String}
    (h : (((start now).run secondsAt settings history).get realm).1 = .ok (.hit document)) :
    ∃ cacheSettings moment,
      (start now).Stored secondsAt settings history cacheSettings realm (some document) moment ∧
      ((start now).run secondsAt settings history).now - moment <
        cacheSettings.presentTtl.nanoseconds := by
  obtain ⟨cacheSettings, -, hbacked⟩ := backed_of_get h
  obtain ⟨moment, hstored, hyoung⟩ := hbacked.noted_of_hit h
  exact ⟨cacheSettings, moment, hstored, hyoung⟩

/-- The soundness of verification, whatever a verifier has gone through.  A token is
accepted only over a document that this very verification has fetched for the realm, or
that the history has stored for the realm since the cache was installed last, less than
the lifetime of documents ago.  Over that document it shows all that is to be shown; in
particular no public key has served as a shared secret. -/
theorem accepted_has_evidence {now : Moment} {history : List VerifierEvent}
    {token realm : String} {course : FetchCourse} {claims : Claims}
    (h : (((start now).run secondsAt settings history).verify secondsAt settings token realm
      course).result = .ok claims) :
    let s := (start now).run secondsAt settings history
    let v := s.verify secondsAt settings token realm course
    ∃ document,
      ((v.fetches = [realm] ∧ course.result settings.requestTimeout = .ok document) ∨
        (v.fetches = [] ∧ ∃ cacheSettings moment,
          (start now).Stored secondsAt settings history cacheSettings realm (some document)
            moment ∧
          moment ≤ s.now ∧
          s.now - moment < cacheSettings.presentTtl.nanoseconds)) ∧
      ∃ evidence : Evidence settings (secondsAt v.state.now) token realm document claims,
        ∀ size, evidence.header.algorithm = .hmac size →
          ∃ k, evidence.key.material = .secret k := by
  obtain ⟨p, header, document, hheader, hobtain, hcheck⟩ := verify_eq_ok_iff.mp h
  dsimp only
  rw [verify_of_readHeader hheader]
  refine ⟨document, ?_, ?_⟩
  · rcases document_of_obtainKeys hobtain with hfetched | ⟨hnone, hhit⟩
    · exact Or.inl hfetched
    · obtain ⟨cacheSettings, moment, hstored, hyoung⟩ := stored_of_hit hhit
      exact Or.inr ⟨hnone, cacheSettings, moment, hstored, hstored.moment_le, hyoung⟩
  · obtain ⟨evidence⟩ := evidence_of_check hheader hcheck
    exact ⟨evidence, fun size hsize => evidence.secret_of_hmac hsize⟩

end

/-- A history in which a document is fetched for a realm and kept. -/
def keptHistory : List VerifierEvent :=
  [.install Cache.Settings.default, .verify Sample.token "diku" Sample.course,
    .advance 1000000000]

/-- A fetch that does not come to an end in time. -/
def unanswered : FetchCourse := ⟨60000000000, .ok Sample.document⟩

/-- A token that is accepted over a document from the cache. -/
theorem accepted_has_evidence_kept : ∃ claims,
    (((start 0).run Sample.date Sample.settings keptHistory).verify Sample.date Sample.settings
      Sample.token "diku" unanswered).result = .ok claims ∧
    ∃ document cacheSettings moment,
      (start 0).Stored Sample.date Sample.settings keptHistory cacheSettings "diku"
        (some document) moment ∧
      Nonempty (Evidence Sample.settings 1767225600 Sample.token "diku" document claims) := by
  have haccepted : ∃ claims,
      (((start 0).run Sample.date Sample.settings keptHistory).verify Sample.date
        Sample.settings Sample.token "diku" unanswered).result = .ok claims ∧
      claims.issuer = none := by
    apply ok_of_toOption
    decide +kernel
  obtain ⟨claims, hresult, -⟩ := haccepted
  refine ⟨claims, hresult, ?_⟩
  obtain ⟨document, ⟨-, hfetched⟩ | ⟨-, cacheSettings, moment, hstored, -, -⟩, evidence, -⟩ :=
    accepted_has_evidence hresult
  · cases hfetched
  · exact ⟨document, cacheSettings, moment, hstored, ⟨evidence⟩⟩

end VerifierState
end Token
end PatronGateway
