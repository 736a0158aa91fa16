import PatronGateway.Token.Claims
import PatronGateway.Token.Header

/-!
# Checking a token against a key set

The checks come in a fixed order: the key set, the id of the key, the algorithm
that the key is meant for, the key itself, the signature, the claims, their
expiry and their issuer.  The first one that fails decides.
-/

namespace PatronGateway
namespace Token

open Json (Document)

/-- The flaw of a token whose algorithm cannot use its key. -/
def KeyFlaw.flaw : KeyFlaw → Flaw
  | .otherFamily => .keyFormat
  | .notOnCurve => .ecdsaKey
  | .notEdwardsPoint => .eddsaKey

/-- What a verifier expects of the claims: the issuer, if one is expected, and
how many seconds a token may be past its expiry. -/
structure Expectation where
  issuer : Option String
  leeway : Nat
  deriving DecidableEq, Repr

/-- The moment before which a token must not have expired.  Seconds are counted
in words of 64 bits, so a leeway beyond the present wraps around. -/
def deadline (now leeway : Nat) : Nat :=
  (now + 2 ^ 64 - leeway % 2 ^ 64) % 2 ^ 64

/-- Checks the claims against what is expected. -/
def checkClaims (e : Expectation) (now : Nat) (c : Claims) : Except Flaw Claims :=
  if c.expiry < 0 then .error (.missingClaim "exp")
  else if c.expiry.toNat < deadline now e.leeway then .error .expired
  else
    match e.issuer, c.issuer with
    | some expected, some actual => if actual = expected then .ok c else .error .issuer
    | _, _ => .ok c

/-- The registered claims that are looked at once more. -/
def registeredNames : List String := ["exp", "nbf", "sub", "iss", "aud"]

/-- Whether a document is an array or an object with something in it. -/
def isFilled : Document → Bool
  | .array items => !items.isEmpty
  | .object members => !members.isEmpty
  | _ => false

/-- Whether the registered claims can be read: none is given twice, and the start
of validity is nothing that would have to be read further. -/
def areRegisteredReadable (d : Document) : Bool :=
  match d.objectFields? registeredNames with
  | some [_, some nbf, _, _, _] => !isFilled nbf
  | some _ => true
  | none => false

/-- Reads the claims of a payload. -/
def readClaims (payload : List Char) : Except Flaw Claims :=
  match Text.Base64Url.decode? payload with
  | none => .error .base64
  | some bytes =>
    match Document.readBytes? bytes with
    | none => .error .json
    | some d =>
      match Claims.ofDocument? d with
      | some c => if areRegisteredReadable d then .ok c else .error .json
      | none => .error .json

/-- Checks the signature of a token. -/
def checkSignature (p : Parts) (h : Header) (key : VerifyingKey) : Except Flaw Unit :=
  match h.algorithm.keyFlaw? key with
  | some f => .error f.flaw
  | none =>
    match Text.Base64Url.decode? p.signature with
    | none => .error .base64
    | some signature =>
      if h.algorithm.verify key p.message signature then .ok () else .error .signature

/-- Checks that a key is meant for the algorithm of a token. -/
def checkAlgorithm (h : Header) (k : Key) : Except Flaw Unit :=
  match k.expectedAlgorithm? with
  | some expected =>
    if expected = h.algorithm then .ok ()
    else .error (.keyAlgorithm h.algorithm.name expected.name)
  | none => .ok ()

/-- Finds the key of a token in a key set. -/
def selectKey (h : Header) (keys : KeySet) : Except Error Key :=
  match h.keyId.bind keys.find? with
  | some k => .ok k
  | none => .error (.unknownKey h.keyId)

/-- Reads the parts and the header of a token. -/
def readHeader (token : String) : Except Error (Parts × Header) :=
  match Parts.ofToken? token with
  | none => .error (.invalid .notThreeParts)
  | some p =>
    match Header.ofParts p with
    | .error f => .error (.invalid f)
    | .ok h => .ok (p, h)

/-- Reads the document of a realm's keys. -/
def readKeySet (realm document : String) : Except Error KeySet :=
  match KeySet.read? document with
  | some keys => .ok keys
  | none => .error (.keysUnavailable realm "malformed key set: malformed")

/-- Makes a key ready for use. -/
def readKey (realm : String) (k : Key) : Except Error VerifyingKey :=
  match k.material.key? with
  | some key => .ok key
  | none => .error (.keysUnavailable realm "unusable signing key: malformed")

/-- Checks a token whose header has been read against the document of its realm's
keys. -/
def check (e : Expectation) (now : Nat) (realm : String) (p : Parts) (h : Header)
    (document : String) : Except Error Claims := do
  let keys ← readKeySet realm document
  let k ← selectKey h keys
  (checkAlgorithm h k).mapError .invalid
  let key ← readKey realm k
  (checkSignature p h key).mapError .invalid
  let claims ← (readClaims p.payload).mapError .invalid
  (checkClaims e now claims).mapError .invalid

end Token
end PatronGateway
