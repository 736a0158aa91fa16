import PatronGateway.Text.Digit
import PatronGateway.Text.Utf8

/-!
# Instants in RFC 3339

An `Instant` is a date and a time of day with an offset from UTC in whole
minutes.  Any ASCII character may stand between the date and the time, and a
fraction of a second may have any number of digits, of which the first nine
count.  A leap second is the last second of a month in UTC, and it is kept as
the last nanosecond before it.  Writing shows the fraction without the zeros at
its end, and `Z` for an offset of zero.
-/

namespace PatronGateway
namespace Time

open Text (Digit)

/-- Whether a year has 366 days. -/
def isLeapYear (year : Int) : Bool :=
  year % 4 == 0 && (year % 100 != 0 || year % 400 == 0)

/-- The number of days of a month; there are months 1 to 12. -/
def daysInMonth (year : Int) (month : Nat) : Nat :=
  if month = 2 then (if isLeapYear year then 29 else 28)
  else if month ∈ [4, 6, 9, 11] then 30
  else if 1 ≤ month ∧ month ≤ 12 then 31
  else 0

/-- A date and a time of day, with its offset from UTC in minutes. -/
structure Instant where
  year : Nat
  month : Nat
  day : Nat
  hour : Nat
  minute : Nat
  second : Nat
  nanosecond : Nat
  offset : Int
  deriving DecidableEq, Repr

namespace Instant

/-- The parts lie in their ranges. -/
def IsValid (t : Instant) : Prop :=
  t.year ≤ 9999 ∧ 1 ≤ t.month ∧ t.month ≤ 12 ∧ 1 ≤ t.day ∧
    t.day ≤ daysInMonth t.year t.month ∧ t.hour ≤ 23 ∧ t.minute ≤ 59 ∧ t.second ≤ 59 ∧
    t.nanosecond < 1000000000 ∧ t.offset.natAbs < 1440

instance (t : Instant) : Decidable t.IsValid := by
  unfold IsValid; infer_instance

/-- The number of days from the first of March of the year 0 to a date. -/
def dayNumber (year : Int) (month day : Nat) : Int :=
  let y := if month ≤ 2 then year - 1 else year
  let m : Int := if month ≤ 2 then month + 9 else month - 3
  365 * y + y / 4 - y / 100 + y / 400 + (153 * m + 2) / 5 + (day - 1)

/-- The minutes in UTC from the first of March of the year 0 to an instant. -/
def utcMinutes (t : Instant) : Int :=
  dayNumber t.year t.month t.day * 1440 + t.hour * 60 + t.minute - t.offset

/-- Whether the minute of an instant is the last minute of a month in UTC: the
next day, at midnight, is the first of a month. -/
def endsMonth (t : Instant) : Bool :=
  let next := t.utcMinutes + 1
  next % 1440 == 0 &&
    (List.range 3).any fun (y : Nat) => (List.range 12).any fun (m : Nat) =>
      dayNumber ((t.year : Int) + y - 1) (m + 1) 1 * 1440 == next

/-- Reads a number with a given number of digits. -/
def number? (count : Nat) (cs : List Char) : Option (Nat × List Char) := do
  let ds ← (cs.take count).mapM Digit.ofChar?
  if ds.length = count then some (Text.value ds, cs.drop count) else none

/-- Reads a given character. -/
def mark? (c : Char) : List Char → Option (List Char)
  | d :: rest => if d = c then some rest else none
  | [] => none

/-- The nanoseconds of a row of digits behind the point. -/
def fractionValue (ds : List Digit) : Nat :=
  Text.value ((ds ++ List.replicate 9 0).take 9)

/-- Reads a fraction of a second, if a point announces one. -/
def fraction? : List Char → Option (Nat × List Char)
  | '.' :: rest =>
    match Text.takeDigits rest with
    | ([], _) => none
    | (ds, rest) => some (fractionValue ds, rest)
  | cs => some (0, cs)

/-- Reads an offset from UTC, which must end the text. -/
def offset? : List Char → Option Int
  | ['Z'] | ['z'] => some 0
  | sign :: rest => do
    if sign ≠ '+' ∧ sign ≠ '-' then none
    let (h, rest) ← number? 2 rest
    let (m, rest) ← number? 2 (← mark? ':' rest)
    if 23 < h ∨ 59 < m ∨ rest ≠ [] then none
    else
      let minutes : Int := h * 60 + m
      return if sign = '-' then -minutes else minutes
  | [] => none

/-- Skips the character between the date and the time. -/
def separator? : List Char → Option (List Char)
  | c :: rest => if c.toNat < 0x80 then some rest else none
  | [] => none

/-- An instant from its parts, if they lie in their ranges; the second may be a
leap second. -/
def ofParts? (year month day hour minute second nanosecond : Nat) (offset : Int) :
    Option Instant :=
  if second = 60 then
    let t : Instant := ⟨year, month, day, hour, minute, 59, 999999999, offset⟩
    if t.IsValid ∧ t.endsMonth then some t else none
  else
    let t : Instant := ⟨year, month, day, hour, minute, second, nanosecond, offset⟩
    if t.IsValid then some t else none

/-- Reads the characters of an instant. -/
def ofChars? (cs : List Char) : Option Instant := do
  let (year, cs) ← number? 4 cs
  let (month, cs) ← number? 2 (← mark? '-' cs)
  let (day, cs) ← number? 2 (← mark? '-' cs)
  let (hour, cs) ← number? 2 (← separator? cs)
  let (minute, cs) ← number? 2 (← mark? ':' cs)
  let (second, cs) ← number? 2 (← mark? ':' cs)
  let (nanosecond, cs) ← fraction? cs
  ofParts? year month day hour minute second nanosecond (← offset? cs)

/-- Reads the text of an instant. -/
def read? (s : String) : Option Instant := ofChars? s.toList

/-- A number with at least a given number of digits. -/
def padded (count n : Nat) : List Char :=
  let ds := Text.decimal n
  List.replicate (count - ds.length) '0' ++ ds

/-- The fraction of a second with its point; nothing where it is zero. -/
def fractionChars (nanosecond : Nat) : List Char :=
  if nanosecond = 0 then []
  else '.' :: ((padded 9 nanosecond).reverse.dropWhile (· == '0')).reverse

/-- The offset from UTC. -/
def offsetChars (offset : Int) : List Char :=
  if offset = 0 then ['Z']
  else
    (if offset < 0 then '-' else '+') ::
      padded 2 (offset.natAbs / 60) ++ ':' :: padded 2 (offset.natAbs % 60)

/-- The characters of an instant. -/
def toChars (t : Instant) : List Char :=
  padded 4 t.year ++ '-' :: padded 2 t.month ++ '-' :: padded 2 t.day ++
    'T' :: padded 2 t.hour ++ ':' :: padded 2 t.minute ++ ':' :: padded 2 t.second ++
    fractionChars t.nanosecond ++ offsetChars t.offset

/-- The text of an instant. -/
def write (t : Instant) : String := String.ofList t.toChars

end Instant
end Time
end PatronGateway
