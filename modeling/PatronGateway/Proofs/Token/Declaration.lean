import PatronGateway.Proofs.Token.Issuer

/-!
# How a key is bound to an algorithm

A key may declare the algorithm that it is meant for, and the header of a token names the
algorithm that the token is signed with.  The two are compared only if the declared name is
that of an algorithm for public keys.  Any other name, be it of an algorithm for shared
secrets, of an encryption or of nothing at all, is taken as if nothing had been declared.

* `Agrees` is that comparison, said of the names, and `expectedAlgorithm?_agrees_iff` says
  that it is what the check of the algorithm looks at.
* `declaration_is_compared_if_public` says which tokens the declarations keep out.
* `declared_size_is_ignored` is a token that is accepted with a key for another hash.
-/

namespace PatronGateway
namespace Token

open Cache (Moment)

theorem Algorithm.mem_all (a : Algorithm) : a ∈ all := by
  cases a with
  | hmac size => cases size <;> decide
  | rsaFixed size => cases size <;> decide
  | rsaSalted size => cases size <;> decide
  | ecdsa256 => decide
  | ecdsa384 => decide
  | edwards => decide

/-- No two algorithms share a name. -/
theorem Algorithm.name_inj {a b : Algorithm} (h : a.name = b.name) : a = b := by
  have hdistinct : ∀ a ∈ all, ∀ b ∈ all, a.name = b.name → a = b := by decide +kernel
  exact hdistinct a a.mem_all b b.mem_all h

theorem Algorithm.ofName?_eq_some_iff {s : String} {a : Algorithm} :
    ofName? s = some a ↔ a.name = s := by
  constructor
  · intro h
    simpa using List.find?_some h
  · rintro rfl
    have hfound : (ofName? a.name).isSome = true :=
      List.find?_isSome.mpr ⟨a, a.mem_all, by simp⟩
    obtain ⟨b, hb⟩ := Option.isSome_iff_exists.mp hfound
    have hname : b.name = a.name := by simpa using List.find?_some hb
    rw [hb, name_inj hname]

/-- A key expects the algorithm of its name, unless that is one for shared secrets. -/
theorem Key.expectedAlgorithm?_eq_some_iff {k : Key} {a : Algorithm} :
    k.expectedAlgorithm? = some a ↔ k.algorithm = some a.name ∧ a.family ≠ .secret := by
  unfold expectedAlgorithm?
  rw [Option.filter_eq_some_iff, Option.bind_eq_some_iff]
  constructor
  · rintro ⟨⟨name, hname, hof⟩, hfamily⟩
    rw [Algorithm.ofName?_eq_some_iff] at hof
    exact ⟨by rw [hname, hof], by simpa using hfamily⟩
  · rintro ⟨hname, hfamily⟩
    exact ⟨⟨a.name, hname, Algorithm.ofName?_eq_some_iff.mpr rfl⟩, by simpa using hfamily⟩

/-- Whether a name is that of an algorithm for public keys. -/
def IsPublicName (name : String) : Prop :=
  ∃ a : Algorithm, a.name = name ∧ a.family ≠ .secret

/-- A key agrees with an algorithm if the name that it declares is that of the algorithm, or is
no name of an algorithm for public keys. -/
def Key.Agrees (k : Key) (a : Algorithm) : Prop :=
  ∀ name, k.algorithm = some name → name = a.name ∨ ¬ IsPublicName name

/-- The check of the algorithm looks at nothing but this. -/
theorem Key.expectedAlgorithm?_agrees_iff {k : Key} {a : Algorithm} :
    (∀ expected, k.expectedAlgorithm? = some expected → expected = a) ↔ k.Agrees a := by
  constructor
  · intro h name hname
    by_cases hpublic : IsPublicName name
    · obtain ⟨b, rfl, hfamily⟩ := hpublic
      rw [h b (expectedAlgorithm?_eq_some_iff.mpr ⟨hname, hfamily⟩)]
      exact Or.inl rfl
    · exact Or.inr hpublic
  · intro h expected hexpected
    obtain ⟨hname, hfamily⟩ := expectedAlgorithm?_eq_some_iff.mp hexpected
    rcases h expected.name hname with hsame | hother
    · exact Algorithm.name_inj hsame
    · exact absurd ⟨expected, rfl, hfamily⟩ hother

/-- The same key without a declared algorithm. -/
def Key.undeclared (k : Key) : Key := { k with algorithm := none }

/-- Leaving the declarations out changes nothing in how a key is found. -/
theorem selectKey_map_undeclared {h : Header} {keys : KeySet} {k : Key}
    (hselect : selectKey h keys = .ok k) :
    selectKey h (keys.map Key.undeclared) = .ok k.undeclared := by
  obtain ⟨kid, hkid, hfind⟩ := selectKey_eq_ok_iff.mp hselect
  refine selectKey_eq_ok_iff.mpr ⟨kid, hkid, ?_⟩
  unfold KeySet.find? at hfind ⊢
  rw [List.find?_map]
  exact congrArg (Option.map Key.undeclared) hfind

theorem exists_of_selectKey_map_undeclared {h : Header} {keys : KeySet} {k' : Key}
    (hselect : selectKey h (keys.map Key.undeclared) = .ok k') :
    ∃ k, selectKey h keys = .ok k ∧ k.undeclared = k' := by
  obtain ⟨kid, hkid, hfind⟩ := selectKey_eq_ok_iff.mp hselect
  unfold KeySet.find? at hfind
  rw [List.find?_map] at hfind
  obtain ⟨k, hk, hsame⟩ := Option.map_eq_some_iff.mp hfind
  exact ⟨k, selectKey_eq_ok_iff.mpr ⟨kid, hkid, hk⟩, hsame⟩

/-- Checks a token whose header has been read against a key set. -/
def checkKeys (e : Expectation) (now : Nat) (realm : String) (p : Parts) (h : Header)
    (keys : KeySet) : Except Error Claims := do
  let k ← selectKey h keys
  (checkAlgorithm h k).mapError .invalid
  let key ← readKey realm k
  (checkSignature p h key).mapError .invalid
  let claims ← (readClaims p.payload).mapError .invalid
  (checkClaims e now claims).mapError .invalid

/-- A document is read first, and then nothing but its key set counts. -/
theorem check_eq_bind (e : Expectation) (now : Nat) (realm : String) (p : Parts) (h : Header)
    (document : String) :
    check e now realm p h document = readKeySet realm document >>= checkKeys e now realm p h :=
  rfl

/-- What the declarations of the keys keep out: the tokens whose key does not agree with their
algorithm, and no others. -/
theorem checkKeys_agrees_iff {e : Expectation} {now : Nat} {realm : String} {p : Parts}
    {h : Header} {keys : KeySet} {claims : Claims} :
    checkKeys e now realm p h keys = .ok claims ↔
      ∃ k, selectKey h keys = .ok k ∧ k.Agrees h.algorithm ∧
        checkKeys e now realm p h (keys.map Key.undeclared) = .ok claims := by
  unfold checkKeys
  simp only [bind_eq_ok, mapError_eq_ok]
  constructor
  · rintro ⟨k, hselect, _, halgorithm, key, hkey, hrest⟩
    have hagrees := Key.expectedAlgorithm?_agrees_iff.mp (checkAlgorithm_eq_ok_iff.mp halgorithm)
    -- nothing is expected where nothing is declared
    have hundeclared : checkAlgorithm h k.undeclared = .ok () := rfl
    exact ⟨k, hselect, hagrees, k.undeclared, selectKey_map_undeclared hselect, (), hundeclared,
      key, hkey, hrest⟩
  · rintro ⟨k, hselect, hagrees, k', hselect', _, -, key, hkey, hrest⟩
    obtain ⟨k'', hselect'', rfl⟩ := exists_of_selectKey_map_undeclared hselect'
    obtain rfl : k = k'' := Except.ok.inj (hselect.symm.trans hselect'')
    have halgorithm :=
      checkAlgorithm_eq_ok_iff.mpr (Key.expectedAlgorithm?_agrees_iff.mpr hagrees)
    exact ⟨k, hselect, (), halgorithm, key, hkey, hrest⟩

namespace VerifierState

/-- A token is accepted if and only if it would be accepted with keys that declare nothing, and
its key agrees with its algorithm: the name that the key declares is the one in the header of
the token, or is no name of an algorithm for public keys. -/
theorem declaration_is_compared_if_public (s : VerifierState) (secondsAt : Moment → Nat)
    (settings : VerifierSettings) (token realm : String) (course : FetchCourse)
    (claims : Claims) :
    (s.verify secondsAt settings token realm course).result = .ok claims ↔
      ∃ p h document keys k,
        readHeader token = .ok (p, h) ∧
        (s.obtainKeys settings.requestTimeout realm course).1 = .ok document ∧
        KeySet.read? document = some keys ∧ selectKey h keys = .ok k ∧
        k.Agrees h.algorithm ∧
        checkKeys (settings.expectation realm)
          (secondsAt (s.obtainKeys settings.requestTimeout realm course).2.2.now) realm p h
          (keys.map Key.undeclared) = .ok claims := by
  rw [verify_eq_ok_iff]
  constructor
  · rintro ⟨p, h, document, hheader, hobtain, hcheck⟩
    rw [check_eq_bind] at hcheck
    obtain ⟨keys, hkeys, haccepted⟩ := bind_eq_ok.mp hcheck
    obtain ⟨k, hselect, hagrees, hundeclared⟩ := checkKeys_agrees_iff.mp haccepted
    exact ⟨p, h, document, keys, k, hheader, hobtain, readKeySet_eq_ok_iff.mp hkeys, hselect,
      hagrees, hundeclared⟩
  · rintro ⟨p, h, document, keys, k, hheader, hobtain, hkeys, hselect, hagrees, hundeclared⟩
    have haccepted := checkKeys_agrees_iff.mpr
      ⟨k, hselect, hagrees, hundeclared⟩
    refine ⟨p, h, document, hheader, hobtain, ?_⟩
    rw [check_eq_bind]
    exact bind_eq_ok.mpr ⟨keys, readKeySet_eq_ok_iff.mpr hkeys, haccepted⟩

/-- The document of a key for the largest hash. -/
def Sample.declaredDocument : String :=
  "\x7b\"keys\":[\x7b\"kty\":\"oct\",\"kid\":\"a\",\"alg\":\"HS512\",\"k\":\"c2VjcmV0\"\x7d]\x7d"

/-- The name that a key declares is not enforced: already a verifier that has gone through
nothing accepts a token for the smallest hash with a key for the largest one. -/
theorem declared_size_is_ignored :
    ¬ ∀ (secondsAt : Moment → Nat) (settings : VerifierSettings) (now : Moment)
      (history : List VerifierEvent) (token realm : String) (course : FetchCourse)
      (claims : Claims) (p : Parts) (h : Header) (document : String) (keys : KeySet) (k : Key)
      (name : String),
      (((start now).run secondsAt settings history).verify secondsAt settings token realm
        course).result = .ok claims →
      readHeader token = .ok (p, h) →
      (((start now).run secondsAt settings history).obtainKeys settings.requestTimeout realm
        course).1 = .ok document →
      KeySet.read? document = some keys →
      selectKey h keys = .ok k →
      k.algorithm = some name →
      name = h.algorithm.name := by
  intro henforced
  let course : FetchCourse := ⟨0, .ok Sample.declaredDocument⟩
  obtain ⟨claims, haccepted, -⟩ : ∃ claims,
      ((start 0).verify Sample.date .default Sample.token "diku" course).result = .ok claims ∧
        claims.subject = "p" := by
    apply ok_of_toOption
    decide +kernel
  obtain ⟨⟨p, h⟩, hheader, rfl⟩ : ∃ parts,
      readHeader Sample.token = .ok parts ∧ parts.2 = ⟨.hmac .bits256, some "a"⟩ := by
    apply ok_of_toOption
    decide +kernel
  have hkeys : KeySet.read? Sample.declaredDocument =
      some [⟨some "a", some "HS512", .secret "c2VjcmV0"⟩] := by decide +kernel
  have hsame := henforced Sample.date .default 0 [] Sample.token "diku" course claims p _ _ _ _ _
    haccepted hheader rfl hkeys rfl rfl
  have hdifferent : "HS512" ≠ (Algorithm.hmac .bits256).name := by decide
  exact hdifferent hsame

end VerifierState
end Token
end PatronGateway
