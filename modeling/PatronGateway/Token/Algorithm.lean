import PatronGateway.Crypto.Ecdsa
import PatronGateway.Crypto.Ed25519
import PatronGateway.Crypto.Rsa

/-!
# Signature algorithms

The algorithms that a token may be signed with, the families that they fall
into, and the keys of each family.  A key is used only by an algorithm of its own
family, so a public key never serves as a shared secret.
-/

namespace PatronGateway
namespace Token

/-- The length of the hash that an algorithm uses. -/
inductive HashSize where
  | bits256
  | bits384
  | bits512
  deriving DecidableEq, Repr

/-- The hash function of a length. -/
def HashSize.hash : HashSize → Crypto.Sha2.Variant
  | bits256 => Crypto.Sha2.sha256
  | bits384 => Crypto.Sha2.sha384
  | bits512 => Crypto.Sha2.sha512

/-- The digits of a length. -/
def HashSize.name : HashSize → String
  | bits256 => "256"
  | bits384 => "384"
  | bits512 => "512"

/-- An algorithm. -/
inductive Algorithm where
  | hmac (size : HashSize)
  | rsaFixed (size : HashSize)
  | rsaSalted (size : HashSize)
  | ecdsa256
  | ecdsa384
  | edwards
  deriving DecidableEq, Repr

/-- The kinds of keys. -/
inductive Family where
  | secret
  | rsa
  | curve
  | edwards
  deriving DecidableEq, Repr

namespace Algorithm

/-- The name of an algorithm. -/
def name : Algorithm → String
  | hmac n => "HS" ++ n.name
  | rsaFixed n => "RS" ++ n.name
  | rsaSalted n => "PS" ++ n.name
  | ecdsa256 => "ES256"
  | ecdsa384 => "ES384"
  | edwards => "EdDSA"

/-- All algorithms. -/
def all : List Algorithm :=
  [hmac .bits256, hmac .bits384, hmac .bits512, ecdsa256, ecdsa384, rsaFixed .bits256,
    rsaFixed .bits384, rsaFixed .bits512, rsaSalted .bits256, rsaSalted .bits384,
    rsaSalted .bits512, edwards]

/-- The algorithm of a name. -/
def ofName? (s : String) : Option Algorithm := all.find? fun a => a.name == s

/-- The kind of keys that an algorithm uses. -/
def family : Algorithm → Family
  | hmac _ => .secret
  | rsaFixed _ | rsaSalted _ => .rsa
  | ecdsa256 | ecdsa384 => .curve
  | edwards => .edwards

end Algorithm

/-- A key, ready for use. -/
inductive VerifyingKey where
  | secret (bytes : Bytes)
  | rsa (modulus exponent : Bytes)
  | curve (coordinates : Bytes)
  | edwards (point : Bytes)
  deriving DecidableEq, Repr

/-- The kind of a key. -/
def VerifyingKey.family : VerifyingKey → Family
  | secret _ => .secret
  | rsa .. => .rsa
  | curve _ => .curve
  | edwards _ => .edwards

/-- What can be wrong with a key that is to be used by an algorithm. -/
inductive KeyFlaw where
  | otherFamily
  | notOnCurve
  | notEdwardsPoint
  deriving DecidableEq, Repr

/-- The curve of an algorithm. -/
def Algorithm.curve? : Algorithm → Option Crypto.Ecdsa.Curve
  | ecdsa256 => some Crypto.Ecdsa.p256
  | ecdsa384 => some Crypto.Ecdsa.p384
  | _ => none

/-- Whether an algorithm can use a key. -/
def Algorithm.keyFlaw? (a : Algorithm) (key : VerifyingKey) : Option KeyFlaw :=
  if key.family ≠ a.family then some .otherFamily
  else match key, a.curve? with
    | .curve bs, some c => if (c.point? bs).isNone then some .notOnCurve else none
    | .edwards bs, _ => if (Crypto.Ed25519.point? bs).isNone then some .notEdwardsPoint else none
    | _, _ => none

/-- Whether a signature is that of a message under a key. -/
def Algorithm.verify (a : Algorithm) (key : VerifyingKey) (message signature : Bytes) : Bool :=
  match a, key with
  | hmac n, .secret k => Crypto.hmac n.hash k message == signature
  | rsaFixed n, .rsa modulus exponent =>
    let k : Crypto.Rsa.PublicKey := ⟨Crypto.ofBytes modulus, Crypto.ofBytes exponent⟩
    k.isUsable && Crypto.Rsa.verifyFixed n.hash k message signature
  | rsaSalted n, .rsa modulus exponent =>
    let k : Crypto.Rsa.PublicKey := ⟨Crypto.ofBytes modulus, Crypto.ofBytes exponent⟩
    k.isUsable && Crypto.Rsa.verifySalted n.hash k message signature
  | a, .curve bs =>
    match a.curve? with
    | some c =>
      match c.point? bs with
      | some p => c.verify p message signature
      | none => false
    | none => false
  | edwards, .edwards bs => Crypto.Ed25519.verify bs message signature
  | _, _ => false

end Token
end PatronGateway
