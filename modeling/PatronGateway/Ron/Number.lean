import PatronGateway.Config.Tree
import PatronGateway.Ron.Lexical

/-!
# Numbers of RON

An integer is written in one of four bases, with underscores behind its first digit,
and may name its type, such as `12u8`.  A decimal integer that is too large for 64
bits is a double, and so is whatever has a point or an exponent.
-/

namespace PatronGateway
namespace Ron

open Config (Tree)
open Decimal (Double)

/-- A character of an integer of any base. -/
def isIntegerChar (c : Char) : Bool :=
  Text.isHexChar c || c == '_'

/-- A character of a double. -/
def isDoubleChar (c : Char) : Bool :=
  c.isDigit || c ∈ ['e', 'E', '.', '+', '-', '_']

/-- The base of an integer and its digits. -/
def base : List Char → Nat × List Char
  | '0' :: 'b' :: rest => (2, rest)
  | '0' :: 'o' :: rest => (8, rest)
  | '0' :: 'x' :: rest => (16, rest)
  | cs => (10, cs)

/-- The types of integers by their names, with the least and the largest of them. -/
def integerTypes : List (String × Int × Int) :=
  [("i8", -2 ^ 7, 2 ^ 7 - 1), ("i16", -2 ^ 15, 2 ^ 15 - 1), ("i32", -2 ^ 31, 2 ^ 31 - 1),
    ("i64", -2 ^ 63, 2 ^ 63 - 1), ("u8", 0, 2 ^ 8 - 1), ("u16", 0, 2 ^ 16 - 1),
    ("u32", 0, 2 ^ 32 - 1), ("u64", 0, 2 ^ 64 - 1)]

/-- The least and the largest integer of the type that is named, and the rest; without
a name any integer of 64 bits will do. -/
def integerType (cs : List Char) : Int × Int × List Char :=
  match integerTypes.findSome? fun t => (word? t.1 cs).map fun rest => (t.2.1, t.2.2, rest) with
  | some t => t
  | none => (-2 ^ 63, 2 ^ 64 - 1, cs)

/-- Takes an integer. -/
def integer? (cs : List Char) : Option (Tree × List Char) := do
  let (negative, body) := Double.takeSign cs
  let (radix, body) := base body
  let row := body.takeWhile isIntegerChar
  let ds := row.filter (· != '_')
  if row.isEmpty || row.head? == some '_' then none
  else
    let n ← Text.digitsIn? radix ds
    let (least, largest, rest) := integerType (body.drop row.length)
    let i : Int := if negative then -(n : Int) else n
    if least ≤ i ∧ i ≤ largest then return (.integer i, rest) else none

/-- Drops the underscores of a double; there may be none in front and none behind the
point. -/
def ungroup? (grouping : Bool) : List Char → Option (List Char)
  | [] => some []
  | '_' :: rest => if grouping then ungroup? grouping rest else none
  | c :: rest =>
    let grouping := if c = '.' then false else c.isDigit || c = 'e' || c = 'E' || grouping
    (ungroup? grouping rest).map (c :: ·)

/-- A double as a number of half its length. -/
def single (d : Double) : Double :=
  d.toFloat.toFloat32.toFloat.toBits

/-- Takes a double that is written with digits. -/
def finite? (cs : List Char) : Option (Tree × List Char) := do
  let row := cs.takeWhile isDoubleChar
  let rest := cs.drop row.length
  let d ← Double.read? (← ungroup? false row)
  match word? "f32" rest, word? "f64" rest with
  | some rest, _ => return (.real (single d), rest)
  | _, some rest => return (.real d, rest)
  | none, none => return (.real d, rest)

/-- Takes one of the doubles that have names. -/
def named? (cs : List Char) : Option (Tree × List Char) :=
  let (negative, body) := Double.takeSign cs
  [("inf", Double.infinite negative), ("NaN", Double.undefined)].findSome? fun w =>
    ["", "f32", "f64"].findSome? fun type =>
      (word? (w.1 ++ type) body).map fun rest => (.real w.2, rest)

/-- Takes a double. -/
def double? (cs : List Char) : Option (Tree × List Char) :=
  (named? cs).orElse fun _ => finite? cs

/-- Whether a number cannot be an integer. -/
def looksDouble (cs : List Char) : Bool :=
  let body := (Double.takeSign cs).2
  (body.takeWhile isIntegerChar).length < (body.takeWhile isDoubleChar).length

/-- Takes a number. -/
def number? (cs : List Char) : Option (Tree × List Char) :=
  if looksDouble cs then double? cs else (integer? cs).orElse fun _ => double? cs

end Ron
end PatronGateway
