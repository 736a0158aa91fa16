import PatronGateway.Crypto.Sha2

/-!
# Signatures on elliptic curves

Points of a curve `y² = x³ - 3x + b` over a prime field form a group, with a
point at infinity for zero.  A signature is a pair of numbers; it is that of a
message when the point computed from the pair, the hash of the message and the
public point has the first number for its abscissa.
-/

namespace PatronGateway
namespace Crypto
namespace Ecdsa

/-- A curve with a base point of prime order. -/
structure Curve where
  bytes : Nat
  prime : Nat
  b : Nat
  order : Nat
  baseX : Nat
  baseY : Nat
  hash : Sha2.Variant

/-- A point; `none` is the point at infinity. -/
abbrev Point := Option (Nat × Nat)

namespace Curve

variable (c : Curve)

/-- The difference of two numbers of the field. -/
def sub (x y : Nat) : Nat := (x + c.prime - y % c.prime) % c.prime

/-- The third point on a line through two points, mirrored. -/
def onLine (slope x₁ y₁ x₂ : Nat) : Point :=
  let x := c.sub (slope * slope) (x₁ + x₂)
  some (x, c.sub (slope * c.sub x₁ x) y₁)

/-- Twice a point. -/
def double : Point → Point
  | none => none
  | some (x, y) =>
    if y = 0 then none
    else
      let slope := c.sub (3 * x * x) 3 * inverse (2 * y) c.prime % c.prime
      c.onLine slope x y x

/-- The sum of two points. -/
def add : Point → Point → Point
  | none, q => q
  | p, none => p
  | some (x₁, y₁), some (x₂, y₂) =>
    if x₁ = x₂ then
      if y₁ = y₂ then c.double (some (x₁, y₁)) else none
    else
      let slope := c.sub y₂ y₁ * inverse (c.sub x₂ x₁) c.prime % c.prime
      c.onLine slope x₁ y₁ x₂

/-- A multiple of a point. -/
def multiple (n : Nat) (p : Point) : Point :=
  if n = 0 then none
  else
    let half := multiple (n / 2) (c.double p)
    if n % 2 = 1 then c.add p half else half
termination_by n

/-- Whether two numbers are the coordinates of a point. -/
def isOnCurve (x y : Nat) : Bool :=
  x < c.prime && y < c.prime && y * y % c.prime == c.sub (x * x * x + c.b) (3 * x)

/-- The point that the bytes of its two coordinates write. -/
def point? (bs : Bytes) : Option (Nat × Nat) :=
  let x := ofBytes (bs.take c.bytes)
  let y := ofBytes (bs.drop c.bytes)
  if bs.length = 2 * c.bytes ∧ c.isOnCurve x y then some (x, y) else none

/-- Whether a signature is that of a message under a public point. -/
def verify (key : Nat × Nat) (message signature : Bytes) : Bool :=
  let r := ofBytes (signature.take c.bytes)
  let s := ofBytes (signature.drop c.bytes)
  if signature.length != 2 * c.bytes || r == 0 || s == 0 || c.order ≤ r || c.order ≤ s then false
  else
    let e := ofBytes ((c.hash.digest message).take c.bytes)
    let w := inverse s c.order
    let u := e * w % c.order
    let v := r * w % c.order
    match c.add (c.multiple u (some (c.baseX, c.baseY))) (c.multiple v (some key)) with
    | some (x, _) => x % c.order == r
    | none => false

end Curve

/-- The curve of 256 bits. -/
def p256 : Curve where
  bytes := 32
  prime := 2 ^ 256 - 2 ^ 224 + 2 ^ 192 + 2 ^ 96 - 1
  b := 0x5ac635d8aa3a93e7b3ebbd55769886bc651d06b0cc53b0f63bce3c3e27d2604b
  order := 0xffffffff00000000ffffffffffffffffbce6faada7179e84f3b9cac2fc632551
  baseX := 0x6b17d1f2e12c4247f8bce6e563a440f277037d812deb33a0f4a13945d898c296
  baseY := 0x4fe342e2fe1a7f9b8ee7eb4a7c0f9e162bce33576b315ececbb6406837bf51f5
  hash := Sha2.sha256

/-- The curve of 384 bits. -/
def p384 : Curve where
  bytes := 48
  prime := 2 ^ 384 - 2 ^ 128 - 2 ^ 96 + 2 ^ 32 - 1
  b := 0xb3312fa7e23ee7e4988e056be3f82d19181d9c6efe8141120314088f5013875ac656398d8a2ed19d2a85c8edd3ec2aef
  order := 0xffffffffffffffffffffffffffffffffffffffffffffffffc7634d81f4372ddf581a0db248b0a77aecec196accc52973
  baseX := 0xaa87ca22be8b05378eb1c71ef320ad746e1d3b628ba79b9859f741e082542a385502f25dbf55296c3a545e3872760ab7
  baseY := 0x3617de4a96262c6f5d9e98bf9292dc29f8f41dbd289a147ce9da3113b5f0b8c00a60b1ce1d7e819d7a431d7c90ea0e5f
  hash := Sha2.sha384

end Ecdsa
end Crypto
end PatronGateway
