import PatronGateway.Decimal.Double

/-!
# From decimals to doubles

`Double.nearest` rounds a fraction to the nearest double, a half going to the
even neighbour, with exact arithmetic.  `Double.read?` reads the common notation
of decimals: digits with or without a point, an exponent, and the names of what
is not finite.
-/

namespace PatronGateway
namespace Decimal

open Text (Digit)

namespace Double

/-- The sign in the bits of a double. -/
def signBits (negative : Bool) : Nat :=
  if negative then 2 ^ 63 else 0

/-- The infinite double of a sign. -/
def infinite (negative : Bool) : Double :=
  UInt64.ofNat (signBits negative + 2047 * 2 ^ 52)

/-- The double that is no number. -/
def undefined : Double :=
  UInt64.ofNat (4095 * 2 ^ 51)

/-- The double `mantissa * 2 ^ exponent`, for a mantissa of at most 53 bits that
has fewer bits only at the least exponent. -/
def ofParts (negative : Bool) (mantissa : Nat) (exponent : Int) : Double :=
  if mantissa < 2 ^ 52 then
    UInt64.ofNat (signBits negative + mantissa)
  else
    let biased := (exponent + 1075).toNat
    if 2047 ≤ biased then infinite negative
    else UInt64.ofNat (signBits negative + biased * 2 ^ 52 + (mantissa - 2 ^ 52))

/-- The least exponent at which the quotient of two positive numbers has at most
53 bits in front of the point, or the least exponent of all. -/
def exponentFor (r : Ratio) : Int :=
  let guess : Int := (r.num.log2 : Int) - r.den.log2 - 53
  let scaled := Ratio.scaled 1 2 guess
  let fits := decide (r.num * scaled.den < 2 ^ 53 * (r.den * scaled.num))
  max (if fits then guess else guess + 1) (-1074)

/-- The nearest double to a fraction, a half going to the even neighbour. -/
def nearest (negative : Bool) (r : Ratio) : Double :=
  if r.num = 0 then UInt64.ofNat (signBits negative)
  else
    let e := exponentFor r
    let step := Ratio.scaled 1 2 e
    let m := Ratio.round ⟨r.num * step.den, r.den * step.num⟩
    if m = 2 ^ 53 then ofParts negative (2 ^ 52) (e + 1) else ofParts negative m e

/-- The double nearest to `digits * 10 ^ place`.  Places far outside the range of
doubles need no arithmetic. -/
def ofDigits (negative : Bool) (ds : List Digit) (place : Int) : Double :=
  let kept := ds.dropWhile (· == 0)
  let top : Int := kept.length + place
  if kept.isEmpty || top < -400 then nearest negative ⟨0, 1⟩
  else if 400 < top then infinite negative
  else nearest negative (Ratio.scaled (Text.value kept) 10 place)

/-- Takes a sign away from the front: whether it was a minus, and the rest. -/
def takeSign : List Char → Bool × List Char
  | '-' :: rest => (true, rest)
  | '+' :: rest => (false, rest)
  | cs => (false, cs)

/-- The power of ten behind the letter `e`; a text without one has the power
zero. -/
def exponent? : List Char → Option Int
  | [] => some 0
  | c :: rest =>
    if c == 'e' || c == 'E' then
      let (negative, digits) := takeSign rest
      (Text.natural? digits).map fun n => if negative then -(n : Int) else n
    else none

/-- Reads digits, with or without a point and an exponent; there must be a digit
on one side of the point. -/
def finite? (negative : Bool) (cs : List Char) : Option Double :=
  let (whole, rest) := Text.takeDigits cs
  let (fraction, rest) := match rest with
    | '.' :: more => Text.takeDigits more
    | _ => ([], rest)
  if whole.isEmpty && fraction.isEmpty then none
  else (exponent? rest).map fun e => ofDigits negative (whole ++ fraction) (e - fraction.length)

/-- Reads a decimal in the common notation. -/
def read? (cs : List Char) : Option Double :=
  let (negative, body) := takeSign cs
  let name := String.ofList (body.map Char.toLower)
  if name == "inf" || name == "infinity" then some (infinite negative)
  else if name == "nan" then some undefined
  else finite? negative body

/-- The nearest integer, halves going away from zero, where it is natural and
fits into 64 bits; whatever lies below or is undefined becomes zero, whatever
lies beyond the largest one. -/
def clampedNatural (d : Double) : Nat :=
  match d.meaning with
  | .undefined | .infinite true => 0
  | .infinite false => 2 ^ 64 - 1
  | .finite true _ _ => 0
  | .finite false mantissa exponent =>
    let r := Ratio.scaled mantissa 2 exponent
    min ((2 * r.num + r.den) / (2 * r.den)) (2 ^ 64 - 1)

/-- Whether a double differs from both zeros. -/
def isNonzero (d : Double) : Bool :=
  match d.meaning with
  | .finite _ mantissa _ => mantissa != 0
  | _ => true

end Double
end Decimal
end PatronGateway
