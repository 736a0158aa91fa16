import PatronGateway.Crypto.Sha2

/-!
# Ed25519 signatures

Points of the twisted Edwards curve `-x² + y² = 1 + d x² y²` over the field of
`2 ^ 255 - 19` are written as their ordinate with the parity of the abscissa in
the highest bit.  Points are added in projective coordinates, by a law without
exceptions.
-/

namespace PatronGateway
namespace Crypto
namespace Ed25519

/-- The prime of the field. -/
def prime : Nat := 2 ^ 255 - 19

/-- The order of the base point. -/
def order : Nat := 2 ^ 252 + 27742317777372353535851937790883648493

/-- The parameter of the curve. -/
def d : Nat := (prime - 121665) * inverse 121666 prime % prime

/-- The difference of two numbers of the field. -/
def sub (x y : Nat) : Nat := (x + prime - y % prime) % prime

/-- A point in projective coordinates. -/
structure Point where
  x : Nat
  y : Nat
  z : Nat

/-- The neutral point. -/
def neutral : Point := ⟨0, 1, 1⟩

/-- The sum of two points. -/
def add (p q : Point) : Point :=
  let a := p.z * q.z % prime
  let b := a * a % prime
  let c := p.x * q.x % prime
  let e := p.y * q.y % prime
  let f := d * c % prime * e % prime
  let g := sub b f
  let h := (b + f) % prime
  { x := a * g % prime * sub ((p.x + p.y) * (q.x + q.y)) (c + e) % prime
    y := a * h % prime * ((e + c) % prime) % prime
    z := g * h % prime }

/-- A multiple of a point. -/
def multiple (n : Nat) (p : Point) : Point :=
  if n = 0 then neutral
  else
    let half := multiple (n / 2) (add p p)
    if n % 2 = 1 then add p half else half
termination_by n

/-- A square root in the field, if there is one. -/
def squareRoot? (n : Nat) : Option Nat :=
  let r := powMod n ((prime + 3) / 8) prime
  if r * r % prime == n % prime then some r
  else
    let r := r * powMod 2 ((prime - 1) / 4) prime % prime
    if r * r % prime == n % prime then some r else none

/-- The point that 32 bytes write. -/
def point? (bs : Bytes) : Option Point :=
  if bs.length = 32 then
    let n := ofBytesLittle bs
    let y := n % 2 ^ 255 % prime
    let odd := n / 2 ^ 255
    let square := sub (y * y) 1 * inverse (d * (y * y % prime) + 1) prime % prime
    (squareRoot? square).map fun x => ⟨if x % 2 = odd then x else (prime - x) % prime, y, 1⟩
  else none

/-- The 32 bytes that write a point. -/
def Point.bytes (p : Point) : Bytes :=
  let w := inverse p.z prime
  let x := p.x * w % prime
  let y := p.y * w % prime
  toBytesLittle 32 (y + x % 2 * 2 ^ 255)

/-- The ordinate of the base point. -/
def baseY : Nat := 4 * inverse 5 prime % prime

/-- The base point. -/
def basePoint : Point := (point? (toBytesLittle 32 baseY)).getD neutral

/-- Whether a signature is that of a message under a public point, which is given
by its bytes. -/
def verify (key message signature : Bytes) : Bool :=
  match point? key with
  | some a =>
    let r := signature.take 32
    let s := ofBytesLittle (signature.drop 32)
    if signature.length != 64 || order ≤ s then false
    else
      let k := ofBytesLittle (Sha2.sha512.digest (r ++ key ++ message)) % order
      (add (multiple s basePoint) (multiple k { a with x := (prime - a.x) % prime })).bytes == r
  | none => false

end Ed25519
end Crypto
end PatronGateway
