import PatronGateway.Crypto.Sha2

/-!
# RSA signatures

A signature is a number, written with as many bytes as the modulus; the scheme with
fixed padding insists on a number below the modulus.  Raised to the public exponent it gives back the encoded message: the
hash behind fixed padding, or, in the probabilistic scheme, a masked block that
proves the hash together with a salt as long as the hash.
-/

namespace PatronGateway
namespace Crypto
namespace Rsa

/-- A public key. -/
structure PublicKey where
  modulus : Nat
  exponent : Nat
  deriving DecidableEq, Repr

/-- Whether a key can be used: odd numbers, a modulus of at most 4096 bits and an
exponent between 2 and `2 ^ 33`, below the modulus. -/
def PublicKey.isUsable (k : PublicKey) : Bool :=
  bitLength k.modulus ≤ 4096 && k.exponent < k.modulus && k.modulus % 2 == 1 &&
    k.exponent % 2 == 1 && 2 ≤ k.exponent && k.exponent < 2 ^ 33

/-- The number of bytes of the modulus. -/
def PublicKey.size (k : PublicKey) : Nat := (bitLength k.modulus + 7) / 8

/-- The encoded message that a signature stands for; its number may exceed the
modulus. -/
def recover? (k : PublicKey) (signature : Bytes) : Option Bytes :=
  if signature.length = k.size then
    some (toBytes k.size (powMod (ofBytes signature) k.exponent k.modulus))
  else none

/-- The bytes before a hash that name the hash function. -/
def hashLead (digestBytes : Nat) : Bytes :=
  let oid := if digestBytes = 32 then 1 else if digestBytes = 48 then 2 else 3
  [0x30, UInt8.ofNat (17 + digestBytes), 0x30, 0x0D, 0x06, 0x09, 0x60, 0x86, 0x48, 0x01, 0x65, 0x03,
    0x04, 0x02, UInt8.ofNat oid, 0x05, 0x00, 0x04, UInt8.ofNat digestBytes]

/-- The encoded message of the scheme with fixed padding, if it fits. -/
def fixedPadding? (v : Sha2.Variant) (size : Nat) (message : Bytes) : Option Bytes :=
  let tail := hashLead v.digestBytes ++ v.digest message
  if size < tail.length + 11 then none
  else some (0x00 :: 0x01 :: List.replicate (size - tail.length - 3) 0xFF ++ 0x00 :: tail)

/-- Whether a signature with fixed padding is that of a message. -/
def verifyFixed (v : Sha2.Variant) (k : PublicKey) (message signature : Bytes) : Bool :=
  match recover? k signature, fixedPadding? v k.size message with
  | some encoded, some expected => decide (ofBytes signature < k.modulus) && encoded == expected
  | _, _ => false

/-- A mask of a given length from a seed. -/
def mask (v : Sha2.Variant) (length : Nat) (seed : Bytes) : Bytes :=
  ((List.range (length / v.digestBytes + 1)).flatMap fun i =>
    v.digest (seed ++ toBytes 4 i)).take length

/-- Clears the given number of bits at the front. -/
def clearFront (bits : Nat) : Bytes → Bytes
  | [] => []
  | b :: rest => UInt8.ofNat (b.toNat % 2 ^ (8 - bits)) :: rest

/-- Whether the given number of bits at the front are clear. -/
def isFrontClear (bits : Nat) : Bytes → Bool
  | [] => true
  | b :: _ => b.toNat < 2 ^ (8 - bits)

/-- Whether an encoded message of the probabilistic scheme is that of a message. -/
def checkSalted (v : Sha2.Variant) (encodedBits : Nat) (encoded message : Bytes) : Bool :=
  let hashLength := v.digestBytes
  let spare := 8 * encoded.length - encodedBits
  if encoded.length < 2 * hashLength + 2 || encoded.getLast? != some 0xBC then false
  else
    let maskLength := encoded.length - hashLength - 1
    let masked := encoded.take maskLength
    let h := (encoded.drop maskLength).take hashLength
    let block := clearFront spare (List.zipWith (· ^^^ ·) masked (mask v maskLength h))
    let zeros := maskLength - hashLength - 1
    let salt := block.drop (zeros + 1)
    isFrontClear spare masked && (block.take zeros).all (· == 0) && block[zeros]? == some 1 &&
      v.digest (List.replicate 8 0 ++ v.digest message ++ salt) == h

/-- Whether a signature of the probabilistic scheme is that of a message. -/
def verifySalted (v : Sha2.Variant) (k : PublicKey) (message signature : Bytes) : Bool :=
  match recover? k signature with
  | some encoded =>
    let bits := bitLength k.modulus - 1
    let length := (bits + 7) / 8
    checkSalted v bits (encoded.drop (k.size - length)) message
  | none => false

end Rsa
end Crypto
end PatronGateway
