import PatronGateway.Text.Digit

/-!
# Doubles

A double is kept as its 64 bits, and its finite values are read as
`mantissa * 2 ^ exponent`.  `shortest` gives the fewest decimal digits that
identify a finite value among all doubles, `fixed` a given number of places,
and a `Layout` says how the digits are set out.
-/

namespace PatronGateway
namespace Decimal

open Text (Digit)

/-- The bits of a double. -/
abbrev Double := UInt64

namespace Double

/-- What the bits of a double stand for. -/
inductive Meaning where
  | finite (negative : Bool) (mantissa : Nat) (exponent : Int)
  | infinite (negative : Bool)
  | undefined

/-- Reads the bits of a double. -/
def meaning (d : Double) : Meaning :=
  let n := d.toNat
  let negative := n / 2 ^ 63 == 1
  let biased : Nat := n / 2 ^ 52 % 2 ^ 11
  let tail : Nat := n % 2 ^ 52
  if biased == 2047 then
    if tail == 0 then .infinite negative else .undefined
  else if biased == 0 then
    .finite negative tail (-1074)
  else
    .finite negative (tail + 2 ^ 52) ((biased : Int) - 1075)

/-- A double as the machine computes with it. -/
def toFloat (d : Double) : Float :=
  Float.ofBits d

/-- The bits of a machine double. -/
def ofFloat (f : Float) : Double :=
  f.toBits

end Double

/-- A fraction of natural numbers. -/
structure Ratio where
  num : Nat
  den : Nat

/-- The number `n * base ^ e`. -/
def Ratio.scaled (n base : Nat) (e : Int) : Ratio :=
  match e with
  | .ofNat k => ⟨n * base ^ k, 1⟩
  | .negSucc k => ⟨n, base ^ (k + 1)⟩

/-- Whether one fraction is at most another. -/
def Ratio.le (a b : Ratio) : Bool :=
  a.num * b.den ≤ b.num * a.den

/-- Whether one fraction is less than another. -/
def Ratio.lt (a b : Ratio) : Bool :=
  a.num * b.den < b.num * a.den

/-- The position of the leading decimal digit of a positive double: `0` for the
units.  No positive double lies below `10 ^ (-350)`. -/
def leadingPlace (mantissa : Nat) (exponent : Int) : Int :=
  let r := Ratio.scaled (mantissa * 10 ^ 350) 2 exponent
  ((Text.digits (r.num / r.den)).length : Int) - 351

/-- The interval of the reals that round to a double, and whether its ends
belong to it. -/
structure Cell where
  low : Ratio
  high : Ratio
  closed : Bool

/-- The interval around `mantissa * 2 ^ exponent`; the lower neighbour of a
power of two is nearer than the upper one. -/
def Cell.around (mantissa : Nat) (exponent : Int) : Cell :=
  let below := if mantissa == 2 ^ 52 && exponent > -1074 then 1 else 2
  { low := Ratio.scaled (4 * mantissa - below) 2 (exponent - 2)
    high := Ratio.scaled (4 * mantissa + 2) 2 (exponent - 2)
    closed := mantissa % 2 == 0 }

/-- Whether a number lies in an interval. -/
def Cell.holds (c : Cell) (x : Ratio) : Bool :=
  if c.closed then c.low.le x && x.le c.high else c.low.lt x && x.lt c.high

/-- The point of the grid of `10 ^ place` that identifies a positive double, if
one of the two neighbours of the double on the grid does; of two the nearer, of
two equally near the even one. -/
def gridPoint? (mantissa : Nat) (exponent place : Int) : Option Nat :=
  let cell := Cell.around mantissa exponent
  let v := Ratio.scaled mantissa 2 exponent
  let step := Ratio.scaled 1 10 place
  let num := v.num * step.den
  let den := v.den * step.num
  let down := num / den
  let twice := 2 * (num % den)
  let downHolds := cell.holds (Ratio.scaled down 10 place)
  let upHolds := cell.holds (Ratio.scaled (down + 1) 10 place)
  if downHolds && upHolds then
    if twice < den || (twice == den && down % 2 == 0) then some down else some (down + 1)
  else if downHolds then some down
  else if upHolds then some (down + 1)
  else none

/-- Drops the zeros at the end of a row of digits, and tells how many. -/
def dropZeros (ds : List Digit) : List Digit × Nat :=
  let kept := (ds.reverse.dropWhile (· == 0)).reverse
  (kept, ds.length - kept.length)

/-- The fewest digits that identify a positive double, and the power of ten
that they count. -/
def shortest (mantissa : Nat) (exponent : Int) : List Digit × Int :=
  let top := leadingPlace mantissa exponent
  let found := (List.range 17).findSome? fun (i : Nat) =>
    (gridPoint? mantissa exponent (top - i)).map fun n => (n, top - i)
  match found with
  | some (n, place) =>
    let (ds, zeros) := dropZeros (Text.digits n)
    (ds, place + zeros)
  | none => ([0], 0)

/-- A number rounded to whole units, a half going to the even neighbour. -/
def Ratio.round (r : Ratio) : Nat :=
  let down := r.num / r.den
  let twice := 2 * (r.num % r.den)
  if twice < r.den || (twice == r.den && down % 2 == 0) then down else down + 1

/-- A finite double with a fixed number of places. -/
def fixed (places : Nat) (negative : Bool) (mantissa : Nat) (exponent : Int) : List Char :=
  let n := (Ratio.scaled (mantissa * 10 ^ places) 2 exponent).round
  let ds := Text.digits n
  let ds := List.replicate (places + 1 - ds.length) (0 : Digit) ++ ds
  let cs := ds.map Digit.toChar
  let whole := cs.take (cs.length - places)
  let sign := if negative then ['-'] else []
  if places == 0 then sign ++ whole
  else sign ++ whole ++ '.' :: cs.drop (cs.length - places)

/-- The digits of a positive double on both sides of the point, without an
exponent; the fraction may be empty. -/
def positional (ds : List Digit) (place : Int) : List Digit × List Digit :=
  match place with
  | .ofNat zeros => (ds ++ List.replicate zeros 0, [])
  | .negSucc n =>
    let places := n + 1
    if places < ds.length then
      (ds.take (ds.length - places), ds.drop (ds.length - places))
    else
      ([0], List.replicate (places - ds.length) 0 ++ ds)

/-- A double in plain notation: no exponent, no fraction where it is whole. -/
def plain (d : Double) : String :=
  match d.meaning with
  | .undefined => "NaN"
  | .infinite true => "-inf"
  | .infinite false => "inf"
  | .finite negative mantissa exponent =>
    let (whole, fraction) :=
      if mantissa == 0 then ([0], [])
      else
        let (ds, place) := shortest mantissa exponent
        positional ds place
    let sign := if negative then ['-'] else []
    let tail := if fraction.isEmpty then [] else '.' :: fraction.map Digit.toChar
    String.ofList (sign ++ whole.map Digit.toChar ++ tail)

end Decimal
end PatronGateway
