import PatronGateway.Decimal.Double
import PatronGateway.Json.Document

/-!
# JSON numbers

A number that is written with digits alone is an integer as long as it fits
into 64 bits; every other number is a double.  The double is computed from a
significand of 64 bits and a power of ten, each rounded once.
-/

namespace PatronGateway
namespace Json

open Text (Digit)
open Decimal (Double)

/-- The value of a number. -/
inductive Number where
  | natural (n : Nat)
  | negative (n : Nat)
  | double (bits : Double)
  deriving DecidableEq, Repr

namespace Number

/-- A significand that takes digits as long as it fits into 64 bits. -/
structure Significand where
  value : Nat
  taken : Nat
  full : Bool

/-- Takes one more digit; after the first one that does not fit, none fits. -/
def Significand.feed (s : Significand) (d : Digit) : Significand :=
  if s.full then s
  else if 10 * s.value + d.val < 2 ^ 64 then ⟨10 * s.value + d.val, s.taken + 1, false⟩
  else { s with full := true }

/-- Takes as many digits as fit, beginning with what is there. -/
def Significand.feedAll (value : Nat) (ds : List Digit) : Significand :=
  ds.foldl Significand.feed ⟨value, 0, false⟩

/-- Scales a double by a power of ten; the power may take several divisions.
There is no result beyond the largest double. -/
def scale? : Nat → Float → Int → Option Float
  | 0, f, _ => some f
  | fuel + 1, f, e =>
    if e.natAbs ≤ 308 then
      let power := Float.ofScientific 1 false e.natAbs
      if 0 ≤ e then
        let f := f * power
        if f.isInf then none else some f
      else
        some (f / power)
    else if f == 0 then some f
    else if 0 ≤ e then none
    else scale? fuel (f / Float.ofScientific 1 false 308) (e + 308)

/-- The double with a given sign, significand and power of ten. -/
def ofParts? (minus : Bool) (significand : Nat) (power : Int) : Option Number :=
  (scale? 8 significand.toUInt64.toFloat power).map fun f =>
    .double (Double.ofFloat (if minus then -f else f))

/-- The largest power of ten that an exponent may name. -/
def exponentLimit : Nat := 2 ^ 31

/-- Applies the written exponent; one that is too large leaves zero or nothing. -/
def withExponent? (minus : Bool) (significand : Nat) (power : Int) :
    Option Exponent → Option Number
  | none => ofParts? minus significand power
  | some e =>
    let n := Text.value e.digits
    if n < exponentLimit then
      ofParts? minus significand (if e.negative then power - n else power + n)
    else if significand != 0 && !e.negative then
      none
    else
      some (.double (Double.ofFloat (if minus then -0.0 else 0.0)))

/-- The value of a number as it is written; there is none beyond the largest
double. -/
def ofNumeral? (n : Numeral) : Option Number :=
  let whole := Significand.feedAll 0 n.whole
  let skipped : Int := n.whole.length - whole.taken
  match n.fraction, n.exponent with
  | none, none =>
    if whole.full then ofParts? n.negative whole.value skipped
    else if !n.negative then some (.natural whole.value)
    else if 0 < whole.value ∧ whole.value ≤ 2 ^ 63 then some (.negative whole.value)
    else ofParts? true whole.value 0
  | fraction, exponent =>
    let ds := fraction.getD []
    let s := Significand.feedAll whole.value ds
    withExponent? n.negative s.value (skipped - s.taken) exponent

/-- How a double is set out: plainly where the point falls among the first
sixteen digits or close before them, else with an exponent; a whole double keeps
one zero behind the point. -/
def layout (minus : Bool) (ds : List Digit) (place : Int) : Numeral :=
  let point : Int := ds.length + place
  if 0 ≤ place ∧ point ≤ 16 then
    ⟨minus, (Decimal.positional ds place).1, some [0], none⟩
  else if -5 < point ∧ point ≤ 16 then
    let (whole, fraction) := Decimal.positional ds place
    ⟨minus, whole, some fraction, none⟩
  else
    let e := point - 1
    let fraction := if ds.length ≤ 1 then none else some (ds.drop 1)
    ⟨minus, ds.take 1, fraction, some ⟨decide (e < 0), Text.digits e.natAbs⟩⟩

/-- The numeral that a number is written with; a double that is no number has
none. -/
def toNumeral? : Number → Option Numeral
  | .natural n => some (.ofNat n)
  | .negative n => some ⟨true, Text.digits n, none, none⟩
  | .double d =>
    match d.meaning with
    | .finite minus mantissa exponent =>
      if mantissa == 0 then
        some ⟨minus, [0], some [0], none⟩
      else
        let (ds, place) := Decimal.shortest mantissa exponent
        some (layout minus ds place)
    | _ => none

end Number
end Json
end PatronGateway
