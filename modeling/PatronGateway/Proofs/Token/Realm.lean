import PatronGateway.Proofs.Json.RoundTrip
import PatronGateway.Proofs.Token.Issuer

/-!
# Tokens stay in their realm

A template that holds a placeholder gives every realm an issuer of its own: between two
realms of different lengths the issuers differ in their lengths, and between two of one
length they differ where the first placeholder has been.  So a token that names its issuer
is accepted for one realm at most, whatever keys the realms have.  An issuer that is null is
never compared: a token with such an issuer goes for every realm with its key.

* `fill_inj` says that the realm can be told from the filled template.
* `accepted_names_issuer_iff` says when a token that has been accepted names its issuer.
* `no_replay_across_realms` is the statement about two verifications, and
  `null_issuer_is_replayed` is about an issuer that is null.
-/

namespace PatronGateway
namespace Token

open Json (Document)
open Cache (Moment)

namespace VerifierSettings

/-- A longer text does not fill a template to a shorter one. -/
theorem length_fill_le {text text' : List Char} (h : text.length ≤ text'.length)
    (t : List Char) : (fill text t).length ≤ (fill text' t).length := by
  induction t using fill.induct with
  | case1 rest ih =>
      simp only [fill, List.length_append]
      exact Nat.add_le_add h ih
  | case2 c rest hother ih =>
      simp only [fill, List.length_cons]
      exact Nat.succ_le_succ ih
  | case3 => exact Nat.le_refl _

/-- What a template was filled with has one length only. -/
theorem length_eq_of_append_fill_eq {text text' rest : List Char}
    (h : text ++ fill text rest = text' ++ fill text' rest) : text.length = text'.length := by
  have hlengths := congrArg List.length h
  rw [List.length_append, List.length_append] at hlengths
  rcases Nat.lt_trichotomy text.length text'.length with hlt | heq | hlt
  · have hle := length_fill_le (Nat.le_of_lt hlt) rest
    omega
  · exact heq
  · have hle := length_fill_le (Nat.le_of_lt hlt) rest
    omega

/-- A template with a placeholder tells what it was filled with. -/
theorem fill_inj {text text' t : List Char} (hplaceholder : placeholder <:+: t)
    (h : fill text t = fill text' t) : text = text' := by
  induction t using fill.induct with
  | case1 rest =>
      simp only [fill] at h
      exact List.append_inj_left h (length_eq_of_append_fill_eq h)
  | case2 c rest hother ih =>
      simp only [fill] at h
      rcases List.infix_cons_iff.mp hplaceholder with ⟨behind, hfront⟩ | hrest
      · obtain ⟨rfl, htail⟩ := List.cons.inj hfront
        exact (hother behind rfl htail.symm).elim
      · exact ih hrest (List.cons.inj h).2
  | case3 => exact absurd (List.infix_nil.mp hplaceholder) (by decide)

/-- Realms with one issuer under a template with a placeholder are the same. -/
theorem realm_eq_of_issuerFor_eq {settings settings' : VerifierSettings} {template : String}
    (htemplate : settings.issuerTemplate = some template)
    (htemplate' : settings'.issuerTemplate = some template)
    (hplaceholder : placeholder <:+: template.toList) {realm realm' : String}
    (h : settings.issuerFor realm = settings'.issuerFor realm') : realm = realm' := by
  unfold issuerFor at h
  rw [htemplate, htemplate'] at h
  have hfilled := String.ofList_injective (Option.some.inj h)
  exact String.toList_inj.mp (fill_inj hplaceholder hfilled)

end VerifierSettings

/-- Only a member that is there and not null says something. -/
theorem SaysText.ne_none_iff {d : Option Document} {s : Option String} (h : SaysText d s) :
    s ≠ none ↔ ∃ value, d = some value ∧ value ≠ .null := by
  cases h with
  | missing => simp
  | null => simp
  | text s => simp

/-- The payload of a token is an object with an `iss`, which may be any document. -/
def HasIssuer (token : String) (issuer : Document) : Prop :=
  ∃ parts payload members, Parts.ofToken? token = some parts ∧
    Text.Base64Url.decode? parts.payload = some payload ∧
    Document.readBytes? payload = some (.object members) ∧ (some "iss", issuer) ∈ members

/-- The payload of a token names an issuer: its `iss` is not null. -/
def NamesIssuer (token : String) : Prop :=
  ∃ issuer, HasIssuer token issuer ∧ issuer ≠ .null

namespace VerifierState

variable {s s' : VerifierState} {secondsAt secondsAt' : Moment → Nat}
  {settings settings' : VerifierSettings} {token realm realm' : String}
  {course course' : FetchCourse} {claims claims' : Claims}

/-- The claims of an accepted token are those of its payload. -/
theorem readClaims_of_verify
    (h : (s.verify secondsAt settings token realm course).result = .ok claims) :
    ∃ parts, Parts.ofToken? token = some parts ∧ readClaims parts.payload = .ok claims := by
  obtain ⟨parts, header, document, hheader, -, hcheck⟩ := verify_eq_ok_iff.mp h
  obtain ⟨keys, kid, k, key, -, -, -, -, -, -, hread, -⟩ := check_eq_ok_iff.mp hcheck
  exact ⟨parts, (readHeader_eq_ok_iff.mp hheader).1, hread⟩

/-- Two verifications that accept a token give the same claims. -/
theorem claims_eq_of_verify
    (h : (s.verify secondsAt settings token realm course).result = .ok claims)
    (h' : (s'.verify secondsAt' settings' token realm' course').result = .ok claims') :
    claims = claims' := by
  obtain ⟨parts, hparts, hread⟩ := readClaims_of_verify h
  obtain ⟨parts', hparts', hread'⟩ := readClaims_of_verify h'
  obtain rfl : parts = parts' := Option.some.inj (hparts.symm.trans hparts')
  exact Except.ok.inj (hread.symm.trans hread')

/-- An accepted token names its issuer if and only if its claims have one. -/
theorem accepted_names_issuer_iff
    (h : (s.verify secondsAt settings token realm course).result = .ok claims) :
    NamesIssuer token ↔ claims.issuer ≠ none := by
  obtain ⟨parts, hparts, hread⟩ := readClaims_of_verify h
  obtain ⟨payload, d, hpayload, hdocument, hclaims, -⟩ := readClaims_eq_ok_iff.mp hread
  obtain ⟨members, rfl, -, -, field, hfield, hgiven⟩ := Claims.given_of_ofDocument? hclaims
  rw [hgiven.ne_none_iff]
  constructor
  · rintro ⟨issuer, ⟨parts', payload', members', hparts', hpayload', hdocument', hmem⟩, hnull⟩
    obtain rfl : parts = parts' := Option.some.inj (hparts.symm.trans hparts')
    obtain rfl : payload = payload' := Option.some.inj (hpayload.symm.trans hpayload')
    obtain rfl : members = members' :=
      Document.object.inj (Option.some.inj (hdocument.symm.trans hdocument'))
    exact ⟨issuer, Document.eq_of_mem_of_field? hfield hmem, hnull⟩
  · rintro ⟨issuer, rfl, hnull⟩
    exact ⟨issuer, ⟨parts, payload, members, hparts, hpayload, hdocument,
      Document.mem_of_field? hfield⟩, hnull⟩

/-- An accepted token that names an issuer names the one that is expected. -/
theorem issuer_eq_of_namesIssuer {template : String}
    (htemplate : settings.issuerTemplate = some template)
    (h : (s.verify secondsAt settings token realm course).result = .ok claims)
    (hnames : NamesIssuer token) : claims.issuer = settings.issuerFor realm := by
  obtain ⟨actual, hactual⟩ := Option.ne_none_iff_exists'.mp
    ((accepted_names_issuer_iff h).mp hnames)
  obtain ⟨expected, hexpected⟩ : ∃ expected, settings.issuerFor realm = some expected := by
    unfold VerifierSettings.issuerFor
    rw [htemplate]
    exact ⟨_, rfl⟩
  rw [hactual, hexpected, (verify_issuer_iff.mp h).2 expected actual hexpected hactual]

/-- Under a template with a placeholder, different realms expect different issuers.  A token
that names an issuer has to name the one of its realm, so it is not accepted for two realms,
whatever the two verifiers have gone through and whatever keys they are given. -/
theorem no_replay_across_realms {template : String}
    (htemplate : settings.issuerTemplate = some template)
    (htemplate' : settings'.issuerTemplate = some template)
    (hplaceholder : VerifierSettings.placeholder <:+: template.toList) (hrealms : realm ≠ realm')
    (s s' : VerifierState) (secondsAt secondsAt' : Moment → Nat) (course course' : FetchCourse)
    (token : String) :
    settings.issuerFor realm ≠ settings'.issuerFor realm' ∧
    (NamesIssuer token →
      (∀ claims, (s.verify secondsAt settings token realm course).result = .ok claims →
        claims.issuer = settings.issuerFor realm) ∧
      ¬ ((∃ claims, (s.verify secondsAt settings token realm course).result = .ok claims) ∧
        ∃ claims, (s'.verify secondsAt' settings' token realm' course').result = .ok claims)) := by
  have hissuers : settings.issuerFor realm ≠ settings'.issuerFor realm' := fun h =>
    hrealms (VerifierSettings.realm_eq_of_issuerFor_eq htemplate htemplate' hplaceholder h)
  refine ⟨hissuers, fun hnames => ⟨fun claims h => issuer_eq_of_namesIssuer htemplate h hnames,
    ?_⟩⟩
  rintro ⟨⟨claims, h⟩, ⟨claims', h'⟩⟩
  obtain rfl := claims_eq_of_verify h h'
  have hissuer := issuer_eq_of_namesIssuer htemplate h hnames
  have hissuer' := issuer_eq_of_namesIssuer htemplate' h' hnames
  exact hissuers (hissuer.symm.trans hissuer')

/-- A token of the realm `diku`, signed like `Sample.token`. -/
def nativeToken : String :=
  "eyJhbGciOiJIUzI1NiIsImtpZCI6ImEifQ." ++
    "eyJzdWIiOiJwIiwiZXhwIjo0MTAyNDQ0ODAwLCJpc3MiOiJodHRwczovL2lkL2Rpa3UifQ." ++
    "Rv2CcTIvrgI9mGn3Aetrm8e2X1gqRJhdK8hiQ_cDC00"

/-- The token is not accepted for a realm that is called like the placeholder, even if that
realm has the same keys. -/
theorem no_replay_across_realms_native :
    (∃ claims, ((start 0).verify Sample.date Sample.settings nativeToken "diku"
      Sample.course).result = .ok claims) ∧
    ¬ ∃ claims, ((start 0).verify Sample.date Sample.settings nativeToken "\x7brealm\x7d"
      Sample.course).result = .ok claims := by
  have haccepted : ∃ claims, ((start 0).verify Sample.date Sample.settings nativeToken "diku"
      Sample.course).result = .ok claims ∧ claims.issuer = some "https://id/diku" := by
    apply ok_of_toOption
    decide +kernel
  obtain ⟨claims, h, hissuer⟩ := haccepted
  have hnames : NamesIssuer nativeToken := by
    rw [accepted_names_issuer_iff h, hissuer]
    exact Option.some_ne_none _
  refine ⟨⟨claims, h⟩, fun hother => ?_⟩
  have htemplate : Sample.settings.issuerTemplate = some "https://id/\x7brealm\x7d" := rfl
  have hplaceholder : VerifierSettings.placeholder <:+: "https://id/\x7brealm\x7d".toList := by
    decide +kernel
  exact ((no_replay_across_realms htemplate htemplate hplaceholder (by decide) (start 0)
    (start 0) Sample.date Sample.date Sample.course Sample.course nativeToken).2 hnames).2
    ⟨⟨claims, h⟩, hother⟩

/-- The members of a payload whose issuer is null. -/
def nullIssuerMembers : List (String × Document) :=
  [("sub", .ofString "p"), ("exp", .ofNat 4102444800), ("iss", .null)]

/-- A token with such a payload, signed like `Sample.token`. -/
def nullIssuerToken : String :=
  "eyJhbGciOiJIUzI1NiIsImtpZCI6ImEifQ.eyJzdWIiOiJwIiwiZXhwIjo0MTAyNDQ0ODAwLCJpc3MiOm51bGx9." ++
    "UpXz6KXrN5qUGtUcA6Qzznhqb-ZvLKEzVaOwd2QY_8s"

theorem hasIssuer_nullIssuerToken : HasIssuer nullIssuerToken .null := by
  -- only bytes are compared here; that they are read as the payload follows from its writing
  have hpayload : (Parts.ofToken? nullIssuerToken).bind
      (fun parts => Text.Base64Url.decode? parts.payload) =
        some (Text.Utf8.encode (Document.record nullIssuerMembers).write) := by
    decide +kernel
  have hproper : (Document.record nullIssuerMembers).IsProper := by
    refine Document.isProper_record ?_
    simp [nullIssuerMembers, Document.isProper_ofString, Document.isProper_ofNat, Document.IsProper]
  obtain ⟨parts, hparts, hpayload⟩ := Option.bind_eq_some_iff.mp hpayload
  refine ⟨parts, _, nullIssuerMembers.map fun m => (some m.1, m.2), hparts, hpayload, ?_, ?_⟩
  · rw [Document.readBytes?_encode, Document.read?_write hproper]
    rfl
  · simp [nullIssuerMembers]

/-- An issuer is not enough: one token has an issuer, which is null, and is accepted for two
realms with the same keys, already by a verifier that has gone through nothing. -/
theorem null_issuer_is_replayed :
    ¬ ∀ (secondsAt : Moment → Nat) (settings : VerifierSettings) (template : String)
      (now now' : Moment) (history history' : List VerifierEvent) (token realm realm' : String)
      (issuer : Document) (course course' : FetchCourse),
      settings.issuerTemplate = some template →
      VerifierSettings.placeholder <:+: template.toList → realm ≠ realm' →
      HasIssuer token issuer →
      ¬ ((∃ claims, (((start now).run secondsAt settings history).verify secondsAt settings token
          realm course).result = .ok claims) ∧
        ∃ claims, (((start now').run secondsAt settings history').verify secondsAt settings token
          realm' course').result = .ok claims) := by
  intro hsingle
  have hplaceholder : VerifierSettings.placeholder <:+: "https://id/\x7brealm\x7d".toList := by
    decide +kernel
  -- in one go, so that the signature is computed once for both realms
  have haccepted :
      ((start 0).verify Sample.date Sample.settings nullIssuerToken "diku"
        Sample.course).result.toOption.map (·.subject) = some "p" ∧
      ((start 0).verify Sample.date Sample.settings nullIssuerToken "demo"
        Sample.course).result.toOption.map (·.subject) = some "p" := by
    decide +kernel
  obtain ⟨claims, hclaims, -⟩ := ok_of_toOption haccepted.1
  obtain ⟨claims', hclaims', -⟩ := ok_of_toOption haccepted.2
  exact hsingle Sample.date Sample.settings _ 0 0 [] [] nullIssuerToken "diku" "demo" .null
    Sample.course Sample.course rfl hplaceholder (by decide) hasIssuer_nullIssuerToken
    ⟨⟨claims, hclaims⟩, claims', hclaims'⟩

end VerifierState
end Token
end PatronGateway
