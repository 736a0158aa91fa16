import PatronGateway.Proofs.Text.Split
import PatronGateway.Proofs.Token.Claims
import PatronGateway.Token.Verifier

/-!
# What a token has to pass

A token is accepted if and only if none of the checks stops it.  This module says what
each check lets through, and puts that together.

* `check_eq_ok_iff` lists the checks that follow each other.
* `Evidence` is what an accepted token shows over a document of keys, and
  `evidence_of_check` says that no token is accepted without it.
* `VerifierState.verify_eq_ok_iff` says the same of a whole verification.
-/

namespace PatronGateway
namespace Token

open Json (Document)
open Cache (Moment)

/-- Steps that follow each other succeed if each of them does. -/
theorem bind_eq_ok {ε α β : Type} {x : Except ε α} {f : α → Except ε β} {b : β} :
    (x >>= f) = .ok b ↔ ∃ a, x = .ok a ∧ f a = .ok b := by
  cases x with
  | error e => simp [bind, Except.bind]
  | ok a => simp [bind, Except.bind]

/-- A step whose errors are put in other words succeeds when it did before. -/
theorem mapError_eq_ok {ε ε' α : Type} {x : Except ε α} {f : ε → ε'} {a : α} :
    x.mapError f = .ok a ↔ x = .ok a := by
  cases x with
  | error e => simp [Except.mapError]
  | ok b => simp [Except.mapError]

section Checks

variable {realm document token : String} {p : Parts} {h : Header} {k : Key}
  {key : VerifyingKey} {claims : Claims}

theorem readHeader_eq_ok_iff :
    readHeader token = .ok (p, h) ↔ Parts.ofToken? token = some p ∧ Header.ofParts p = .ok h := by
  unfold readHeader
  constructor
  · intro hok
    split at hok
    · cases hok
    · rename_i q hparts
      split at hok
      · cases hok
      · rename_i g hheader
        cases hok
        exact ⟨hparts, hheader⟩
  · rintro ⟨hparts, hheader⟩
    simp only [hparts, hheader]

theorem readKeySet_eq_ok_iff {keys : KeySet} :
    readKeySet realm document = .ok keys ↔ KeySet.read? document = some keys := by
  unfold readKeySet
  cases KeySet.read? document <;> simp

theorem selectKey_eq_ok_iff {keys : KeySet} :
    selectKey h keys = .ok k ↔ ∃ kid, h.keyId = some kid ∧ keys.find? kid = some k := by
  unfold selectKey
  cases h.keyId with
  | none => simp
  | some kid => cases hfind : keys.find? kid <;> simp [hfind]

theorem readKey_eq_ok_iff : readKey realm k = .ok key ↔ k.material.key? = some key := by
  unfold readKey
  cases k.material.key? <;> simp

theorem checkAlgorithm_eq_ok_iff :
    checkAlgorithm h k = .ok () ↔
      ∀ expected, k.expectedAlgorithm? = some expected → expected = h.algorithm := by
  unfold checkAlgorithm
  cases k.expectedAlgorithm? with
  | none => simp
  | some expected => by_cases heq : expected = h.algorithm <;> simp [heq]

theorem checkSignature_eq_ok_iff :
    checkSignature p h key = .ok () ↔
      h.algorithm.keyFlaw? key = none ∧
      ∃ signature, Text.Base64Url.decode? p.signature = some signature ∧
        h.algorithm.verify key p.message signature = true := by
  unfold checkSignature
  cases h.algorithm.keyFlaw? key with
  | some f => simp
  | none =>
      cases Text.Base64Url.decode? p.signature with
      | none => simp
      | some signature =>
          cases hverify : h.algorithm.verify key p.message signature <;> simp [hverify]

theorem readClaims_eq_ok_iff {payload : List Char} :
    readClaims payload = .ok claims ↔
      ∃ bytes d, Text.Base64Url.decode? payload = some bytes ∧
        Document.readBytes? bytes = some d ∧ Claims.ofDocument? d = some claims ∧
        areRegisteredReadable d = true := by
  unfold readClaims
  cases Text.Base64Url.decode? payload with
  | none => simp
  | some bytes =>
      cases hdocument : Document.readBytes? bytes with
      | none => simp [hdocument]
      | some d =>
          cases hclaims : Claims.ofDocument? d with
          | none => simp [hdocument, hclaims]
          | some c =>
              cases hreadable : areRegisteredReadable d <;>
                simp [hdocument, hclaims, hreadable]

/-- Claims that have not expired pass unless they name another issuer than the one that is
expected.  Claims without an issuer pass. -/
theorem checkClaims_of_current {e : Expectation} {now : Nat} {c : Claims}
    (hpositive : 0 ≤ c.expiry) (hcurrent : deadline now e.leeway ≤ c.expiry.toNat) :
    checkClaims e now c = .ok claims ↔
      c = claims ∧ ∀ expected actual, e.issuer = some expected → c.issuer = some actual →
        actual = expected := by
  unfold checkClaims
  rw [if_neg (by omega), if_neg (by omega)]
  cases e.issuer with
  | none => simp
  | some expected =>
      cases c.issuer with
      | none => simp
      | some actual => by_cases hsame : actual = expected <;> simp [hsame]

theorem checkClaims_eq_ok_iff {e : Expectation} {now : Nat} {c : Claims} :
    checkClaims e now c = .ok claims ↔
      c = claims ∧ 0 ≤ claims.expiry ∧ deadline now e.leeway ≤ claims.expiry.toNat ∧
      ∀ expected actual, e.issuer = some expected → claims.issuer = some actual →
        actual = expected := by
  constructor
  · intro hok
    have hpositive : 0 ≤ c.expiry := by
      by_contra hnegative
      unfold checkClaims at hok
      rw [if_pos (by omega)] at hok
      cases hok
    have hcurrent : deadline now e.leeway ≤ c.expiry.toNat := by
      by_contra hexpired
      unfold checkClaims at hok
      rw [if_neg (by omega), if_pos (by omega)] at hok
      cases hok
    obtain ⟨rfl, hissuer⟩ := (checkClaims_of_current hpositive hcurrent).mp hok
    exact ⟨rfl, hpositive, hcurrent, hissuer⟩
  · rintro ⟨rfl, hpositive, hcurrent, hissuer⟩
    exact (checkClaims_of_current hpositive hcurrent).mpr ⟨rfl, hissuer⟩

/-- A token is accepted if it passes every check, one after the other. -/
theorem check_eq_ok_iff {e : Expectation} {now : Nat} :
    check e now realm p h document = .ok claims ↔
      ∃ keys kid k key, KeySet.read? document = some keys ∧
        h.keyId = some kid ∧ keys.find? kid = some k ∧
        checkAlgorithm h k = .ok () ∧ k.material.key? = some key ∧
        checkSignature p h key = .ok () ∧ readClaims p.payload = .ok claims ∧
        checkClaims e now claims = .ok claims := by
  unfold check
  simp only [bind_eq_ok, mapError_eq_ok, readKeySet_eq_ok_iff, selectKey_eq_ok_iff,
    readKey_eq_ok_iff]
  constructor
  · rintro ⟨keys, hkeys, k, ⟨kid, hkid, hfind⟩, _, halgorithm, key, hkey, _, hsignature,
      c, hread, hclaims⟩
    obtain ⟨rfl, -⟩ := checkClaims_eq_ok_iff.mp hclaims
    exact ⟨keys, kid, k, key, hkeys, hkid, hfind, halgorithm, hkey, hsignature, hread, hclaims⟩
  · rintro ⟨keys, kid, k, key, hkeys, hkid, hfind, halgorithm, hkey, hsignature, hread, hclaims⟩
    exact ⟨keys, hkeys, k, ⟨kid, hkid, hfind⟩, (), halgorithm, key, hkey, (), hsignature,
      claims, hread, hclaims⟩

end Checks

/-- The kind of a key that is written with given parts. -/
def Material.family : Material → Family
  | secret _ => .secret
  | rsa .. => .rsa
  | curve .. => .curve
  | edwards _ => .edwards

theorem Material.family_eq {m : Material} {key : VerifyingKey} (h : m.key? = some key) :
    key.family = m.family := by
  cases m with
  | secret k =>
      obtain ⟨bytes, -, hkey⟩ := Option.bind_eq_some_iff.mp h
      cases hkey
      rfl
  | rsa n e =>
      obtain ⟨modulus, -, hrest⟩ := Option.bind_eq_some_iff.mp h
      obtain ⟨exponent, -, hkey⟩ := Option.bind_eq_some_iff.mp hrest
      cases hkey
      rfl
  | curve x y =>
      obtain ⟨xs, -, hrest⟩ := Option.bind_eq_some_iff.mp h
      obtain ⟨ys, -, hkey⟩ := Option.bind_eq_some_iff.mp hrest
      cases hkey
      rfl
  | edwards x =>
      obtain ⟨xs, -, hkey⟩ := Option.bind_eq_some_iff.mp h
      cases hkey
      rfl

/-- An algorithm finds no flaw only in keys of its own kind. -/
theorem Algorithm.family_eq_of_keyFlaw? {a : Algorithm} {key : VerifyingKey}
    (h : a.keyFlaw? key = none) : key.family = a.family := by
  unfold Algorithm.keyFlaw? at h
  by_cases hfamily : key.family = a.family
  · exact hfamily
  · rw [if_pos hfamily] at h
    cases h

theorem KeySet.find?_eq_some_iff {keys : KeySet} {kid : String} {k : Key} :
    keys.find? kid = some k ↔
      k.id = some kid ∧
      ∃ earlier later, keys = earlier ++ k :: later ∧ ∀ other ∈ earlier, other.id ≠ some kid := by
  unfold KeySet.find?
  rw [List.find?_eq_some_iff_append]
  simp

/-- What a member says that may be a string, null or missing. -/
inductive SaysText : Option Document → Option String → Prop
  | missing : SaysText none none
  | null : SaysText (some .null) none
  | text (s : String) : SaysText (some (.text (some s))) (some s)

theorem saysText_of_optional {d : Option Document} {s : Option String}
    (h : Document.withDefault? none (Document.optional? Document.string?) d = some s) :
    SaysText d s := by
  cases d with
  | none =>
      cases h
      exact .missing
  | some d =>
      cases d with
      | null =>
          cases h
          exact .null
      | text t =>
          obtain ⟨u, hu, rfl⟩ := Option.map_eq_some_iff.mp h
          obtain rfl : t = some u := hu
          exact .text u
      | bool value => cases h
      | number value => cases h
      | array items => cases h
      | object members => cases h

theorem required_string {d : Option Document} {s : String}
    (h : Document.required? Document.string? d = some s) : d = some (.text (some s)) := by
  obtain ⟨d, rfl, hs⟩ := Option.bind_eq_some_iff.mp h
  cases d with
  | text t => rw [show t = some s from hs]
  | null => cases hs
  | bool value => cases hs
  | number value => cases hs
  | array items => cases hs
  | object members => cases hs

/-- Claims are read from the members of an object, of which the subject and the expiry
must be there. -/
theorem Claims.given_of_ofDocument? {d : Document} {claims : Claims}
    (h : ofDocument? d = some claims) :
    ∃ members, d = .object members ∧
      Document.field? "sub" members = some (some (.text (some claims.subject))) ∧
      (∃ exp, Document.field? "exp" members = some (some exp) ∧
        exp.integer? = some claims.expiry) ∧
      (∃ iss, Document.field? "iss" members = some iss ∧ SaysText iss claims.issuer) := by
  obtain ⟨members, -, rfl, -, hfields, -⟩ := exists_of_ofDocument? h
  obtain ⟨sub, hsub, hsubject⟩ := hfields.subject
  obtain ⟨exp, hexp, hexpiry⟩ := hfields.expiry
  obtain ⟨iss, hiss, hissuer⟩ := hfields.issuer
  obtain ⟨exp, rfl, hinteger⟩ := Option.bind_eq_some_iff.mp hexpiry
  refine ⟨members, rfl, ?_, ⟨exp, hexp, hinteger⟩, iss, hiss, saysText_of_optional hissuer⟩
  rw [hsub, required_string hsubject]

/-- What a token that has been accepted shows, over the document of its realm's keys and
at a date: it is signed by the first key of its id, which belongs to the family of its
algorithm, and the claims are those of the payload that is signed.  Dates are seconds,
counted in words of 64 bits. -/
structure Evidence (settings : VerifierSettings) (date : Nat) (token realm document : String)
    (claims : Claims) where
  parts : Parts
  header : Header
  kid : String
  earlier : KeySet
  key : Key
  later : KeySet
  verifyingKey : VerifyingKey
  signature : Bytes
  payload : Bytes
  members : List (Option String × Document)
  token_eq : token.toList =
    parts.header ++ '.' :: parts.payload ++ '.' :: parts.signature
  undotted : '.' ∉ parts.payload ∧ '.' ∉ parts.signature
  header_eq : Header.ofParts parts = .ok header
  keyId_eq : header.keyId = some kid
  keys_eq : KeySet.read? document = some (earlier ++ key :: later)
  id_eq : key.id = some kid
  id_ne : ∀ other ∈ earlier, other.id ≠ some kid
  family_eq : key.material.family = header.algorithm.family
  algorithm_eq : ∀ expected, key.expectedAlgorithm? = some expected →
    expected = header.algorithm
  verifyingKey_eq : key.material.key? = some verifyingKey
  signature_eq : Text.Base64Url.decode? parts.signature = some signature
  verifies : header.algorithm.verify verifyingKey parts.message signature = true
  payload_eq : Text.Base64Url.decode? parts.payload = some payload
  members_eq : Document.readBytes? payload = some (.object members)
  claims_eq : Claims.ofDocument? (.object members) = some claims
  subject_given : Document.field? "sub" members = some (some (.text (some claims.subject)))
  expiry_given : ∃ exp, Document.field? "exp" members = some (some exp) ∧
    exp.integer? = some claims.expiry
  issuer_given : ∃ iss, Document.field? "iss" members = some iss ∧ SaysText iss claims.issuer
  current : settings.leeway ≤ date → date < 2 ^ 64 →
    ((date - settings.leeway : Nat) : Int) ≤ claims.expiry
  issuer_eq : ∀ expected actual, settings.issuerFor realm = some expected →
    claims.issuer = some actual → actual = expected

/-- A public key never serves as a shared secret. -/
theorem Evidence.secret_of_hmac {settings : VerifierSettings} {date : Nat}
    {token realm document : String} {claims : Claims}
    (e : Evidence settings date token realm document claims) {size : HashSize}
    (h : e.header.algorithm = .hmac size) : ∃ k, e.key.material = .secret k := by
  have hfamily : e.key.material.family = .secret := by
    rw [e.family_eq, h]
    rfl
  cases hmaterial : e.key.material with
  | secret k => exact ⟨k, rfl⟩
  | rsa n e' => rw [hmaterial] at hfamily; cases hfamily
  | curve x y => rw [hmaterial] at hfamily; cases hfamily
  | edwards x => rw [hmaterial] at hfamily; cases hfamily

/-- The deadline lies the leeway before the present, as long as that is no date before
the first one. -/
theorem deadline_eq {now leeway : Nat} (hleeway : leeway ≤ now) (hnow : now < 2 ^ 64) :
    deadline now leeway = now - leeway := by
  unfold deadline
  rw [Nat.mod_eq_of_lt (Nat.lt_of_le_of_lt hleeway hnow)]
  have hsum : now + 2 ^ 64 - leeway = now - leeway + 2 ^ 64 := by omega
  rw [hsum, Nat.add_mod_right]
  exact Nat.mod_eq_of_lt (by omega)

/-- No token is accepted without evidence. -/
theorem evidence_of_check {settings : VerifierSettings} {date : Nat}
    {token realm document : String} {p : Parts} {h : Header} {claims : Claims}
    (hheader : readHeader token = .ok (p, h))
    (hcheck : check (settings.expectation realm) date realm p h document = .ok claims) :
    Nonempty (Evidence settings date token realm document claims) := by
  obtain ⟨hparts, hofParts⟩ := readHeader_eq_ok_iff.mp hheader
  obtain ⟨keys, kid, k, key, hkeys, hkid, hfind, halgorithm, hkey, hsignature, hread,
    hclaims⟩ := check_eq_ok_iff.mp hcheck
  -- the token is cut at its last dot, and what is before it once more
  obtain ⟨⟨message, signaturePart⟩, hcut, hrest⟩ := Option.bind_eq_some_iff.mp hparts
  obtain ⟨⟨headerPart, payloadPart⟩, hcut', hp⟩ := Option.bind_eq_some_iff.mp hrest
  cases hp
  obtain ⟨htoken, hsignaturePart⟩ := Text.splitLast?_eq_some_iff.mp hcut
  obtain ⟨rfl, hpayloadPart⟩ := Text.splitLast?_eq_some_iff.mp hcut'
  obtain ⟨hid, earlier, later, rfl, hearlier⟩ := KeySet.find?_eq_some_iff.mp hfind
  obtain ⟨hflaw, signature, hdecoded, hverify⟩ := checkSignature_eq_ok_iff.mp hsignature
  obtain ⟨payload, d, hpayload, hdocument, hofDocument, -⟩ := readClaims_eq_ok_iff.mp hread
  obtain ⟨members, rfl, hsub, hexp, hiss⟩ := Claims.given_of_ofDocument? hofDocument
  obtain ⟨-, hpositive, hdeadline, hissuer⟩ := checkClaims_eq_ok_iff.mp hclaims
  refine ⟨{
    parts := ⟨headerPart, payloadPart, signaturePart⟩
    header := h
    kid := kid
    earlier := earlier
    key := k
    later := later
    verifyingKey := key
    signature := signature
    payload := payload
    members := members
    token_eq := htoken
    undotted := ⟨hpayloadPart, hsignaturePart⟩
    header_eq := hofParts
    keyId_eq := hkid
    keys_eq := hkeys
    id_eq := hid
    id_ne := hearlier
    family_eq := (Material.family_eq hkey).symm.trans (Algorithm.family_eq_of_keyFlaw? hflaw)
    algorithm_eq := checkAlgorithm_eq_ok_iff.mp halgorithm
    verifyingKey_eq := hkey
    signature_eq := hdecoded
    verifies := hverify
    payload_eq := hpayload
    members_eq := hdocument
    claims_eq := hofDocument
    subject_given := hsub
    expiry_given := hexp
    issuer_given := hiss
    current := ?_
    issuer_eq := hissuer }⟩
  -- as long as the leeway does not reach before the first date, the deadline does not wrap
  intro hleeway hdate
  have hle : date - settings.leeway ≤ claims.expiry.toNat := by
    rw [← deadline_eq hleeway hdate]
    exact hdeadline
  omega

namespace VerifierState

variable {s : VerifierState} {secondsAt : Moment → Nat} {settings : VerifierSettings}
  {token realm : String} {course : FetchCourse} {p : Parts} {h : Header} {claims : Claims}

/-- A token without a readable header is refused, and nothing else happens. -/
theorem verify_of_readHeader_error {e : Error} (hheader : readHeader token = .error e) :
    s.verify secondsAt settings token realm course = ⟨.error e, [], s⟩ := by
  unfold verify
  rw [hheader]

/-- Verifying a token whose header can be read obtains the keys and checks the token
against them. -/
theorem verify_of_readHeader (hheader : readHeader token = .ok (p, h)) :
    s.verify secondsAt settings token realm course =
      let keys := s.obtainKeys settings.requestTimeout realm course
      ⟨keys.1 >>= check (settings.expectation realm) (secondsAt keys.2.2.now) realm p h,
        keys.2.1, keys.2.2⟩ := by
  unfold verify
  rw [hheader]
  dsimp only
  obtain ⟨result, fetches, after⟩ := s.obtainKeys settings.requestTimeout realm course
  cases result <;> rfl

/-- A token is accepted if its header can be read, the keys can be obtained, and the
token passes the checks against them. -/
theorem verify_eq_ok_iff :
    (s.verify secondsAt settings token realm course).result = .ok claims ↔
      ∃ p h document, readHeader token = .ok (p, h) ∧
        (s.obtainKeys settings.requestTimeout realm course).1 = .ok document ∧
        check (settings.expectation realm)
          (secondsAt (s.obtainKeys settings.requestTimeout realm course).2.2.now)
          realm p h document = .ok claims := by
  cases hheader : readHeader token with
  | error e =>
      rw [verify_of_readHeader_error hheader]
      simp
  | ok parts =>
      obtain ⟨p, h⟩ := parts
      rw [verify_of_readHeader hheader]
      simp only [bind_eq_ok, Except.ok.injEq, Prod.mk.injEq]
      constructor
      · rintro ⟨document, hobtain, hcheck⟩
        exact ⟨p, h, document, ⟨rfl, rfl⟩, hobtain, hcheck⟩
      · rintro ⟨_, _, document, ⟨rfl, rfl⟩, hobtain, hcheck⟩
        exact ⟨document, hobtain, hcheck⟩

end VerifierState

theorem ok_of_toOption {ε α β : Type} {x : Except ε α} {f : α → β} {b : β}
    (h : x.toOption.map f = some b) : ∃ a, x = .ok a ∧ f a = b := by
  cases x with
  | error e => cases h
  | ok a => exact ⟨a, rfl, Option.some.inj h⟩

/-! ## A token that is accepted -/

namespace Sample

/-- A token for the subject `p` without an issuer, signed with the secret `secret`. -/
def token : String :=
  "eyJhbGciOiJIUzI1NiIsImtpZCI6ImEifQ.eyJzdWIiOiJwIiwiZXhwIjo0MTAyNDQ0ODAwfQ." ++
    "M87sSRIjczSU6UuOH3a-gBbNG1_vKPBhUB_EDJGBa4Q"

/-- The document of its key. -/
def document : String :=
  "\x7b\"keys\":[\x7b\"kty\":\"oct\",\"kid\":\"a\",\"k\":\"c2VjcmV0\"\x7d]\x7d"

/-- A clock that stands still in the year 2026. -/
def date : Moment → Nat := fun _ => 1767225600

/-- A verifier that expects an issuer. -/
def settings : VerifierSettings :=
  { VerifierSettings.default with issuerTemplate := some "https://id/\x7brealm\x7d" }

/-- The fetch of the keys succeeds at once. -/
def course : FetchCourse := ⟨0, .ok document⟩

end Sample
end Token
end PatronGateway
