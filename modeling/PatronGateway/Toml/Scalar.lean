import PatronGateway.Config.Tree
import PatronGateway.Text.Hex
import PatronGateway.Time.Instant

/-!
# Numbers, dates and words of TOML

A scalar without quotes is a truth value, an integer of 64 bits in one of four
bases, a double, or a date and a time of day.  Digits may be grouped by single
underscores.  A date or time is kept as its text, with a short fraction.
-/

namespace PatronGateway
namespace Toml

open Config (Tree)
open Decimal (Double)
open Text (Digit)

/-- Takes digits away underscores that stand between two digits of some base. -/
def ungroup? (isDigit : Char → Bool) : List Char → Option (List Char)
  | [] => none
  | [c] => if isDigit c then some [c] else none
  | c :: '_' :: d :: rest =>
    if isDigit c then (ungroup? isDigit (d :: rest)).map (c :: ·) else none
  | c :: rest => if isDigit c then (ungroup? isDigit rest).map (c :: ·) else none

/-- The digits of a row in base ten. -/
def decimalDigits? (cs : List Char) : Option (List Digit) :=
  (ungroup? Char.isDigit cs).bind fun ds => ds.mapM Digit.ofChar?

/-- The digits of a whole number: without a zero in front of others. -/
def wholeDigits? (cs : List Char) : Option (List Digit) :=
  (decimalDigits? cs).filter fun ds => ds.length = 1 || ds.head? != some 0

/-- An integer that fits into 64 bits. -/
def fitting? (i : Int) : Option Tree :=
  if -(2 ^ 63) ≤ i ∧ i < 2 ^ 63 then some (.integer i) else none

/-- The number of a row of digits in a base. -/
def inBase? (radix : Nat) (cs : List Char) : Option Tree := do
  let isDigit (c : Char) := match Text.Nibble.ofChar? c with
    | some d => decide (d.val < radix)
    | none => false
  let ds ← ungroup? isDigit cs
  let ns ← ds.mapM Text.Nibble.ofChar?
  fitting? (ns.foldl (fun n d => radix * n + d.val) 0 : Nat)

/-- Reads an integer. -/
def integer? (cs : List Char) : Option Tree :=
  match cs with
  | '0' :: 'x' :: rest => inBase? 16 rest
  | '0' :: 'o' :: rest => inBase? 8 rest
  | '0' :: 'b' :: rest => inBase? 2 rest
  | cs =>
    let (negative, body) := Double.takeSign cs
    (wholeDigits? body).bind fun ds =>
      let n : Int := Text.value ds
      fitting? (if negative then -n else n)

/-- Whether a character begins the exponent of a double. -/
def isExponentMark (c : Char) : Bool :=
  c == 'e' || c == 'E'

/-- Cuts a text before its first character of a kind, if it has one. -/
def cutAt? (p : Char → Bool) (cs : List Char) : List Char × Option (List Char) :=
  match cs.dropWhile (fun c => !p c) with
  | [] => (cs, none)
  | _ :: rest => (cs.takeWhile (fun c => !p c), some rest)

/-- Reads a double that is written with digits; one that is too large is an
error. -/
def finite? (negative : Bool) (cs : List Char) : Option Tree := do
  let (significand, exponent) := cutAt? isExponentMark cs
  let (whole, fraction) := cutAt? (· == '.') significand
  if exponent.isNone && fraction.isNone then none
  else
    let whole ← wholeDigits? whole
    let fraction ← match fraction with
      | some cs => decimalDigits? cs
      | none => some []
    let power ← match exponent with
      | some cs =>
        let (minus, body) := Double.takeSign cs
        (decimalDigits? body).map fun ds =>
          let n : Int := Text.value ds
          if minus then -n else n
      | none => some 0
    let d := Double.ofDigits negative (whole ++ fraction) (power - fraction.length)
    if d = Double.infinite negative then none else some (.real d)

/-- Reads a double. -/
def real? (cs : List Char) : Option Tree :=
  let (negative, body) := Double.takeSign cs
  match String.ofList body with
  | "inf" => some (.real (Double.infinite negative))
  | "nan" => some (.real Double.undefined)
  | _ => finite? negative body

/-- A number of two digits at most as large as a limit. -/
def twoDigits? (limit : Nat) : List Char → Option (Nat × List Char)
  | a :: b :: rest => do
    let n ← Text.natural? [a, b]
    if n ≤ limit then some (n, rest) else none
  | _ => none

/-- Takes a date: its text and the rest. -/
def date? (cs : List Char) : Option (List Char × List Char) := do
  let year ← (Text.natural? (cs.take 4)).filter fun _ => 4 < cs.length
  match cs.drop 4 with
  | '-' :: rest => do
    let (month, rest) ← twoDigits? 12 rest
    match rest with
    | '-' :: rest => do
      let (day, rest) ← twoDigits? (Time.daysInMonth year month) rest
      if month = 0 ∨ day = 0 then none else some (cs.take 10, rest)
    | _ => none
  | _ => none

/-- Takes the digits behind the seconds: at most nine count, and zeros at the end
are left out, except for a last one. -/
def subsecond? (cs : List Char) : Option (List Char × List Char) :=
  let (ds, rest) := Text.takeDigits cs
  let kept := (Decimal.dropZeros (ds.take 9)).1
  if ds.isEmpty then none
  else some ('.' :: (if kept.isEmpty then ['0'] else kept.map Digit.toChar), rest)

/-- Takes a time of day: its text and the rest.  The seconds may be missing. -/
def time? (cs : List Char) : Option (List Char × List Char) := do
  let (_, rest) ← twoDigits? 23 cs
  match rest with
  | ':' :: rest => do
    let (_, rest) ← twoDigits? 59 rest
    match rest with
    | ':' :: rest => do
      let (_, rest) ← twoDigits? 60 rest
      match rest with
      | '.' :: rest => (subsecond? rest).map fun p => (cs.take 8 ++ p.1, p.2)
      | rest => some (cs.take 8, rest)
    | rest => some (cs.take 5, rest)
  | _ => none

/-- Reads the offset at the end of a time. -/
def offset? : List Char → Option (List Char)
  | ['Z'] | ['z'] => some ['Z']
  | sign :: rest =>
    if sign == '+' || sign == '-' then do
      let (hours, more) ← twoDigits? 23 rest
      match more with
      | ':' :: more => do
        let (minutes, more) ← twoDigits? 59 more
        if !more.isEmpty then none
        else if hours = 0 ∧ minutes = 0 then some ('+' :: rest)
        else some (sign :: rest)
      | _ => none
    else none
  | [] => none

/-- Reads a date, a time of day, or both with or without an offset. -/
def moment? (cs : List Char) : Option Tree :=
  match date? cs with
  | some (date, []) => some (.text (String.ofList date))
  | some (date, c :: rest) => do
    if c ∉ ['T', 't', ' '] then none
    else
      let (time, rest) ← time? rest
      let offset ← if rest.isEmpty then some [] else offset? rest
      return .text (String.ofList (date ++ 'T' :: time ++ offset))
  | none =>
    match time? cs with
    | some (time, []) => some (.text (String.ofList time))
    | _ => none

/-- Reads a scalar without quotes. -/
def scalarOf? (cs : List Char) : Option Tree :=
  match String.ofList cs with
  | "true" => some (.truth true)
  | "false" => some (.truth false)
  | _ => (integer? cs).orElse fun _ => (real? cs).orElse fun _ => moment? cs

/-- A character of a scalar without quotes. -/
def isScalarChar (c : Char) : Bool :=
  (c.toNat < 0x80 && c.isAlphanum) || c ∈ ['+', '-', '_', '.', ':']

/-- Takes a scalar without quotes; a blank may stand between a date and a time. -/
def scalarToken? (cs : List Char) : Option (Tree × List Char) :=
  let token := cs.takeWhile isScalarChar
  let rest := cs.dropWhile isScalarChar
  let joined := match date? token, rest with
    | some (_, []), ' ' :: more =>
      match time? (more.takeWhile isScalarChar) with
      | some _ => some (token ++ ' ' :: more.takeWhile isScalarChar, more.dropWhile isScalarChar)
      | none => none
    | _, _ => none
  match joined with
  | some (token, rest) => (scalarOf? token).map fun t => (t, rest)
  | none => (scalarOf? token).map fun t => (t, rest)

end Toml
end PatronGateway
