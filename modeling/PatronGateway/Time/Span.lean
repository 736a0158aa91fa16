import PatronGateway.Text.Digit
import PatronGateway.Text.Blank

/-!
# Spans of time

A `Span` is a length of time in nanoseconds, of less than `2 ^ 64` seconds where
it comes from a text.  Its text is a row of terms, each a number with a unit:
`1h 30m`, `1.5s`, `1day`.  Reading is a fold over the characters; writing gives
each unit its largest share, from years down to nanoseconds.
-/

namespace PatronGateway
namespace Time

/-- A length of time. -/
structure Span where
  nanoseconds : Nat
  deriving DecidableEq, Repr, Inhabited

namespace Span

/-- No time. -/
def zero : Span := ⟨0⟩

/-- Whole seconds. -/
def ofSeconds (n : Nat) : Span := ⟨n * 1000000000⟩

/-- The whole seconds of a span. -/
def seconds (s : Span) : Nat := s.nanoseconds / 1000000000

/-- What a span has beyond its whole seconds. -/
def subsecond (s : Span) : Nat := s.nanoseconds % 1000000000

end Span

/-- The units of a span's text; a year has 365.25 days and a month a twelfth of
it, rounded to whole seconds. -/
inductive TimeUnit where
  | nanosecond
  | microsecond
  | millisecond
  | second
  | minute
  | hour
  | day
  | week
  | month
  | year
  deriving DecidableEq, Repr

namespace TimeUnit

/-- The unit that a name stands for; names are told apart by case. -/
def ofName? (name : String) : Option TimeUnit :=
  if name ∈ ["nanos", "nsec", "ns"] then some nanosecond
  else if name ∈ ["usec", "us", "µs"] then some microsecond
  else if name ∈ ["millis", "msec", "ms"] then some millisecond
  else if name ∈ ["seconds", "second", "secs", "sec", "s"] then some second
  else if name ∈ ["minutes", "minute", "min", "mins", "m"] then some minute
  else if name ∈ ["hours", "hour", "hrs", "hr", "h"] then some hour
  else if name ∈ ["days", "day", "d"] then some day
  else if name ∈ ["weeks", "week", "wk", "wks", "w"] then some week
  else if name ∈ ["months", "month", "M"] then some month
  else if name ∈ ["years", "year", "yr", "yrs", "y"] then some year
  else none

/-- The length of a unit below a second, in nanoseconds. -/
def nanoseconds? : TimeUnit → Option Nat
  | nanosecond => some 1
  | microsecond => some 1000
  | millisecond => some 1000000
  | _ => none

/-- The length of a unit in seconds; the units below a second have none. -/
def seconds : TimeUnit → Nat
  | nanosecond | microsecond | millisecond => 0
  | second => 1
  | minute => 60
  | hour => 3600
  | day => 86400
  | week => 604800
  | month => 2630016
  | year => 31557600

end TimeUnit

namespace Span

/-- A natural number that fits into 64 bits. -/
def word? (n : Nat) : Option Nat :=
  if n < 2 ^ 64 then some n else none

/-- Adds seconds and nanoseconds; neither the seconds nor the nanoseconds
before carrying may leave 64 bits. -/
def plus? (s : Span) (seconds nanoseconds : Nat) : Option Span := do
  let n ← word? (s.subsecond + nanoseconds)
  let k ← word? (s.seconds + seconds + n / 1000000000)
  return ⟨k * 1000000000 + n % 1000000000⟩

/-- A fraction of a unit: `numerator / denominator`, the latter a power of ten. -/
structure Fraction where
  numerator : Nat
  denominator : Nat
  deriving Repr

/-- Takes one more digit of a fraction. -/
def Fraction.feed? (f : Fraction) (digit : Nat) : Option Fraction := do
  let d ← word? (f.denominator * 10)
  let n ← word? (f.numerator * 10 + digit)
  return ⟨n, d⟩

/-- Adds whole units. -/
def plusUnits? (s : Span) (count : Nat) (unit : TimeUnit) : Option Span :=
  match unit.nanoseconds? with
  | some k => do s.plus? 0 (← word? (count * k))
  | none => do s.plus? (← word? (count * unit.seconds)) 0

/-- A fraction of a number that fits into 64 bits also before it is divided; nothing
may be left over. -/
def Fraction.of? (f : Fraction) (whole : Nat) : Option Nat := do
  let n ← word? (f.numerator * whole)
  if n % f.denominator = 0 then some (n / f.denominator) else none

/-- Adds a fraction of a unit: in nanoseconds up to the minute, beyond it in
seconds; a nanosecond cannot be divided. -/
def plusFraction? (s : Span) (f : Fraction) (unit : TimeUnit) : Option Span :=
  match unit with
  | .nanosecond => none
  | .microsecond => do s.plus? 0 (← f.of? 1000)
  | .millisecond => do s.plus? 0 (← f.of? 1000000)
  | .second => do s.plus? 0 (← f.of? 1000000000)
  | .minute => do s.plus? 0 (← f.of? 60000000000)
  | unit => do s.plus? (← f.of? unit.seconds) 0

/-- Adds one term of a span's text. -/
def plusTerm? (s : Span) (count : Nat) (fraction : Option Fraction) (name : List Char) :
    Option Span := do
  let unit ← TimeUnit.ofName? (String.ofList name)
  let s ← s.plusUnits? count unit
  match fraction with
  | some f => s.plusFraction? f unit
  | none => return s

/-- Where reading a span's text stands: before a number, inside one, inside its
fraction, or inside the name of its unit, which is held in reverse. -/
inductive Stage where
  | between
  | whole (count : Nat)
  | fraction (count : Nat) (fraction : Fraction)
  | unit (count : Nat) (fraction : Option Fraction) (reversed : List Char)

/-- What has been read of a span's text: the terms that are complete, unless
there are none, and the stage. -/
structure Reading where
  total : Option Span
  stage : Stage

/-- Adds the term whose unit has just ended. -/
def Reading.close? (r : Reading) (count : Nat) (fraction : Option Fraction)
    (reversed : List Char) (next : Stage) : Option Reading := do
  let s ← (r.total.getD zero).plusTerm? count fraction reversed.reverse
  return ⟨some s, next⟩

/-- The letters that names of units are made of. -/
def isUnitLetter (c : Char) : Bool :=
  c.isAlpha || c == 'µ'

/-- Reads one character of a span's text; blanks inside a number are skipped. -/
def Reading.feed? (r : Reading) (c : Char) : Option Reading :=
  match r.stage with
  | .between =>
    match Text.Digit.ofChar? c with
    | some d => some { r with stage := .whole d.val }
    | none => if Text.isBlankChar c then some r else none
  | .whole n =>
    match Text.Digit.ofChar? c with
    | some d => do return { r with stage := .whole (← word? (n * 10 + d.val)) }
    | none =>
      if Text.isBlankChar c then some r
      else if isUnitLetter c then some { r with stage := .unit n none [c] }
      else if c == '.' then some { r with stage := .fraction n ⟨0, 1⟩ }
      else none
  | .fraction n f =>
    match Text.Digit.ofChar? c with
    | some d => do return { r with stage := .fraction n (← f.feed? d.val) }
    | none =>
      if Text.isBlankChar c then some r
      else if isUnitLetter c ∧ f.denominator ≠ 1 then
        some { r with stage := .unit n (some f) [c] }
      else none
  | .unit n f name =>
    match Text.Digit.ofChar? c with
    | some d => r.close? n f name (.whole d.val)
    | none =>
      if Text.isBlankChar c then r.close? n f name .between
      else if isUnitLetter c then some { r with stage := .unit n f (c :: name) }
      else none

/-- Ends the reading; a number needs its unit, and there must be a term. -/
def Reading.finish? (r : Reading) : Option Span :=
  match r.stage with
  | .between => r.total
  | .unit n f name => do (← r.close? n f name .between).total
  | _ => none

/-- The span that a text writes; a single `0` needs no unit. -/
def read? (text : String) : Option Span :=
  if text = "0" then some zero
  else do (← text.toList.foldlM Reading.feed? ⟨none, .between⟩).finish?

/-- A count with its unit, if there is something to count. -/
def term (count : Nat) (unit : String) : List String :=
  if count = 0 then [] else [String.ofList (Text.decimal count) ++ unit]

/-- A count with a word for its unit, which takes an `s` in the plural. -/
def wordTerm (count : Nat) (unit : String) : List String :=
  term count (if count = 1 then unit else unit ++ "s")

/-- The terms of a span, from years down to nanoseconds. -/
def terms (s : Span) : List String :=
  let secs := s.seconds
  let nanos := s.subsecond
  let inYear := secs % 31557600
  let inMonth := inYear % 2630016
  let inDay := inMonth % 86400
  wordTerm (secs / 31557600) "year" ++ wordTerm (inYear / 2630016) "month" ++
    wordTerm (inMonth / 86400) "day" ++ term (inDay / 3600) "h" ++
    term (inDay % 3600 / 60) "m" ++ term (inDay % 60) "s" ++
    term (nanos / 1000000) "ms" ++ term (nanos / 1000 % 1000) "us" ++ term (nanos % 1000) "ns"

/-- The text of a span. -/
def write (s : Span) : String :=
  match s.terms with
  | [] => "0s"
  | terms => " ".intercalate terms

/-- The digits of a fraction with a given number of places, without the zeros
at its end. -/
def fractionDigits (places n : Nat) : List Char :=
  let ds := Text.decimal n
  let padded := List.replicate (places - ds.length) '0' ++ ds
  (padded.reverse.dropWhile (· == '0')).reverse

/-- A span as one decimal number of the largest unit that does not exceed it,
from seconds down. -/
def brief (s : Span) : String :=
  let shown (places : Nat) (unit : String) : String :=
    let fraction := fractionDigits places (s.nanoseconds % 10 ^ places)
    String.ofList (Text.decimal (s.nanoseconds / 10 ^ places) ++
      (if fraction.isEmpty then [] else '.' :: fraction)) ++ unit
  if s.nanoseconds ≥ 10 ^ 9 then shown 9 "s"
  else if s.nanoseconds ≥ 10 ^ 6 then shown 6 "ms"
  else if s.nanoseconds ≥ 10 ^ 3 then shown 3 "µs"
  else shown 0 "ns"

end Span
end Time
end PatronGateway
