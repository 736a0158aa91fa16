import PatronGateway.Proofs.Token.History

/-!
# How the issuer is checked

A verifier with an issuer template expects an issuer of every token.  It compares the
issuer of a token with that, but only if the token has one: no claim but the subject and
the expiry is required.

* `issuer_is_compared_if_given` says which tokens the template keeps out, and when an
  accepted token has the issuer that is expected.
* `issuer_may_be_missing` is a token without an issuer that is accepted all the same.
-/

namespace PatronGateway
namespace Token

open Cache (Moment)

/-- Expecting an issuer keeps out the tokens that name another one, and no others. -/
theorem check_issuer_iff {issuer : Option String} {leeway now : Nat} {realm document : String}
    {p : Parts} {h : Header} {claims : Claims} :
    check ⟨issuer, leeway⟩ now realm p h document = .ok claims ↔
      check ⟨none, leeway⟩ now realm p h document = .ok claims ∧
      ∀ expected actual, issuer = some expected → claims.issuer = some actual →
        actual = expected := by
  simp only [check_eq_ok_iff, checkClaims_eq_ok_iff]
  constructor
  · rintro ⟨keys, kid, k, key, hkeys, hkid, hfind, halgorithm, hkey, hsignature, hread,
      -, hpositive, hdeadline, hissuer⟩
    refine ⟨⟨keys, kid, k, key, hkeys, hkid, hfind, halgorithm, hkey, hsignature, hread,
      trivial, hpositive, hdeadline, ?_⟩, hissuer⟩
    intro expected actual hnone
    cases hnone
  · rintro ⟨⟨keys, kid, k, key, hkeys, hkid, hfind, halgorithm, hkey, hsignature, hread,
      -, hpositive, hdeadline, -⟩, hissuer⟩
    exact ⟨keys, kid, k, key, hkeys, hkid, hfind, halgorithm, hkey, hsignature, hread,
      trivial, hpositive, hdeadline, hissuer⟩

/-- An issuer that passes the comparison is missing or the expected one. -/
theorem passes_iff {expected : String} {issuer : Option String} :
    (∀ e a, some expected = some e → issuer = some a → a = e) ↔
      issuer = none ∨ issuer = some expected := by
  cases issuer with
  | none => simp
  | some actual =>
      constructor
      · intro hall
        exact Or.inr (congrArg some (hall expected actual rfl rfl))
      · rintro (hnone | hsame) e a he ha
        · cases hnone
        · exact Option.some.inj (ha.symm.trans (hsame.trans he))

namespace VerifierState

/-- The verifications with and without an issuer template obtain the same keys, so they
differ in the comparison of the issuer alone. -/
theorem verify_issuer_iff {s : VerifierState} {secondsAt : Moment → Nat}
    {settings : VerifierSettings} {token realm : String} {course : FetchCourse}
    {claims : Claims} :
    (s.verify secondsAt settings token realm course).result = .ok claims ↔
      (s.verify secondsAt { settings with issuerTemplate := none } token realm course).result =
        .ok claims ∧
      ∀ expected actual, settings.issuerFor realm = some expected →
        claims.issuer = some actual → actual = expected := by
  rw [verify_eq_ok_iff, verify_eq_ok_iff]
  constructor
  · rintro ⟨p, h, document, hheader, hobtain, hcheck⟩
    obtain ⟨hunchecked, hissuer⟩ := check_issuer_iff.mp hcheck
    exact ⟨⟨p, h, document, hheader, hobtain, hunchecked⟩, hissuer⟩
  · rintro ⟨⟨p, h, document, hheader, hobtain, hunchecked⟩, hissuer⟩
    exact ⟨p, h, document, hheader, hobtain, check_issuer_iff.mpr ⟨hunchecked, hissuer⟩⟩

/-- With an issuer template, a token is accepted if it would be accepted without one and
has no issuer or the expected one.  So an accepted token has the expected issuer if and
only if it has an issuer. -/
theorem issuer_is_compared_if_given {settings : VerifierSettings} {template : String}
    (htemplate : settings.issuerTemplate = some template) (s : VerifierState)
    (secondsAt : Moment → Nat) (token realm : String) (course : FetchCourse)
    (claims : Claims) :
    ((s.verify secondsAt settings token realm course).result = .ok claims ↔
      (s.verify secondsAt { settings with issuerTemplate := none } token realm course).result =
        .ok claims ∧
      (claims.issuer = none ∨ claims.issuer = settings.issuerFor realm)) ∧
    ((s.verify secondsAt settings token realm course).result = .ok claims →
      (claims.issuer = settings.issuerFor realm ↔ claims.issuer ≠ none)) := by
  obtain ⟨expected, hexpected⟩ : ∃ expected, settings.issuerFor realm = some expected := by
    unfold VerifierSettings.issuerFor
    rw [htemplate]
    exact ⟨_, rfl⟩
  have hiff := @verify_issuer_iff s secondsAt settings token realm course claims
  rw [hexpected, passes_iff] at hiff
  rw [hexpected]
  refine ⟨hiff, ?_⟩
  intro haccepted
  obtain ⟨-, hmissing | hsame⟩ := hiff.mp haccepted
  · simp [hmissing]
  · simp [hsame]

/-- A token without an issuer is accepted. -/
theorem sample_accepted : ∃ claims,
    ((start 0).verify Sample.date Sample.settings Sample.token "diku" Sample.course).result =
      .ok claims ∧ claims.issuer = none := by
  apply ok_of_toOption
  decide +kernel

theorem issuer_is_compared_if_given_sample :
    Sample.settings.issuerTemplate = some "https://id/\x7brealm\x7d" ∧
    ∃ claims,
      ((start 0).verify Sample.date Sample.settings Sample.token "diku"
        Sample.course).result = .ok claims ∧
      (claims.issuer = Sample.settings.issuerFor "diku" ↔ claims.issuer ≠ none) := by
  obtain ⟨claims, haccepted, -⟩ := sample_accepted
  have htemplate : Sample.settings.issuerTemplate = some "https://id/\x7brealm\x7d" := rfl
  exact ⟨htemplate, claims, haccepted,
    (issuer_is_compared_if_given htemplate (start 0) Sample.date Sample.token "diku"
      Sample.course claims).2 haccepted⟩

/-- An issuer is not enforced: already a verifier that has gone through nothing accepts a
token without one. -/
theorem issuer_may_be_missing :
    ¬ ∀ (secondsAt : Moment → Nat) (settings : VerifierSettings) (template : String)
      (now : Moment) (history : List VerifierEvent) (token realm : String)
      (course : FetchCourse) (claims : Claims),
      settings.issuerTemplate = some template →
      (((start now).run secondsAt settings history).verify secondsAt settings token realm
        course).result = .ok claims →
      claims.issuer = settings.issuerFor realm := by
  intro henforced
  obtain ⟨claims, haccepted, hmissing⟩ := sample_accepted
  have hsame := henforced Sample.date Sample.settings _ 0 [] Sample.token "diku" Sample.course
    claims rfl haccepted
  rw [hmissing] at hsame
  cases hsame

end VerifierState
end Token
end PatronGateway
