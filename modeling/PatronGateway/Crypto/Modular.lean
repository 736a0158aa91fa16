import PatronGateway.Text.Utf8

/-!
# Arithmetic with large numbers

Powers and inverses modulo a number, and the numbers that rows of bytes write,
most significant byte first.
-/

namespace PatronGateway
namespace Crypto

/-- The power `b ^ e` modulo `m`. -/
def powMod (b e m : Nat) : Nat :=
  if e = 0 then 1 % m
  else
    let half := powMod (b * b % m) (e / 2) m
    if e % 2 = 1 then b * half % m else half
termination_by e

/-- The inverse of a number modulo a prime. -/
def inverse (a p : Nat) : Nat := powMod (a % p) (p - 2) p

/-- The number that bytes write, most significant first. -/
def ofBytes (bs : Bytes) : Nat := bs.foldl (fun n b => n * 256 + b.toNat) 0

/-- A number in a given count of bytes, most significant first. -/
def toBytes : Nat → Nat → Bytes
  | 0, _ => []
  | count + 1, n => toBytes count (n / 256) ++ [UInt8.ofNat n]

/-- The number that bytes write, least significant first. -/
def ofBytesLittle (bs : Bytes) : Nat := ofBytes bs.reverse

/-- A number in a given count of bytes, least significant first. -/
def toBytesLittle (count n : Nat) : Bytes := (toBytes count n).reverse

/-- The number of binary digits. -/
def bitLength (n : Nat) : Nat := if n = 0 then 0 else Nat.log2 n + 1

theorem length_toBytes (count n : Nat) : (toBytes count n).length = count := by
  induction count generalizing n with
  | zero => rfl
  | succ count ih => simp [toBytes, ih]

end Crypto
end PatronGateway
