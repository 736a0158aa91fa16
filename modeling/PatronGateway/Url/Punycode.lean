/-!
# Punycode

A label of a domain name with characters beyond ASCII is written with ASCII
alone: its ASCII characters first, then a row of variable-length numbers that
say where each further character goes.
-/

namespace PatronGateway
namespace Url
namespace Punycode

/-- The number of digits: letters, then digits. -/
def base : Nat := 36

/-- The character of a digit. -/
def digitChar (n : Nat) : Char :=
  if n < 26 then Char.ofNat (97 + n) else Char.ofNat (22 + n)

/-- The digit that a character stands for, letters in either case. -/
def digit? (c : Char) : Option Nat :=
  let n := c.toNat
  if 97 ≤ n ∧ n ≤ 122 then some (n - 97)
  else if 65 ≤ n ∧ n ≤ 90 then some (n - 65)
  else if 48 ≤ n ∧ n ≤ 57 then some (n - 22)
  else none

/-- The digit below which a number may end, at a given place. -/
def threshold (place bias : Nat) : Nat :=
  min 26 (max 1 (place - bias))

/-- Divides a delta down until its number is short; counts the divisions. -/
def settle (fuel delta places : Nat) : Nat :=
  match fuel with
  | 0 => places
  | fuel + 1 =>
    if delta > 455 then settle fuel (delta / 35) (places + base)
    else places + 36 * delta / (delta + 38)

/-- The bias after a delta. -/
def adapt (delta points : Nat) (first : Bool) : Nat :=
  let delta := if first then delta / 700 else delta / 2
  settle 64 (delta + delta / points) 0

/-- A number from a given place on. -/
def number (fuel n place bias : Nat) : List Char :=
  match fuel with
  | 0 => []
  | fuel + 1 =>
    let t := threshold place bias
    if n < t then [digitChar n]
    else digitChar (t + (n - t) % (base - t)) :: number fuel ((n - t) / (base - t)) (place + base) bias

/-- Where encoding stands. -/
structure Encoder where
  delta : Nat
  bias : Nat
  handled : Nat
  output : List Char

/-- Passes one character of the label in the round for code point `n`. -/
def Encoder.pass (asciiCount n : Nat) (e : Encoder) (c : Char) : Encoder :=
  if c.toNat < n then { e with delta := e.delta + 1 }
  else if c.toNat = n then
    { delta := 0
      bias := adapt e.delta (e.handled + 1) (e.handled == asciiCount)
      handled := e.handled + 1
      output := e.output ++ number 64 e.delta base e.bias }
  else e

/-- Handles the code points from `n` on, the least one first. -/
def rounds (asciiCount : Nat) (label : List Char) : Nat → Nat → Encoder → Encoder
  | 0, _, e => e
  | fuel + 1, n, e =>
    match (label.filter fun c => n ≤ c.toNat).map Char.toNat |>.min? with
    | none => e
    | some m =>
      let e := { e with delta := e.delta + (m - n) * (e.handled + 1) }
      let e := label.foldl (Encoder.pass asciiCount m) e
      rounds asciiCount label fuel (m + 1) { e with delta := e.delta + 1 }

/-- The ASCII form of a label. -/
def encode (label : List Char) : List Char :=
  let ascii := label.filter fun c => c.toNat < 0x80
  let lead := if ascii.isEmpty then [] else ascii ++ ['-']
  (rounds ascii.length label label.length 0x80 ⟨0, 72, ascii.length, lead⟩).output

/-- Reads a number from a given place on; returns what follows it. -/
def readNumber (bias : Nat) : List Char → Nat → Nat → Nat → Option (Nat × List Char)
  | [], _, _, _ => none
  | c :: rest, place, weight, n =>
    match digit? c with
    | none => none
    | some d =>
      let n := n + d * weight
      if 2 ^ 32 ≤ n then none
      else
        let t := threshold place bias
        if d < t then some (n, rest) else readNumber bias rest (place + base) (weight * (base - t)) n

/-- Reads the numbers behind the ASCII characters and puts their characters in. -/
def insertions (fuel : Nat) (cs : List Char) (n i bias : Nat) (label : List Char) :
    Option (List Char) :=
  match fuel, cs with
  | _, [] => some label
  | 0, _ => none
  | fuel + 1, cs =>
    match readNumber bias cs base 1 0 with
    | none => none
    | some (delta, rest) =>
      let length := label.length + 1
      let i' := i + delta
      let n := n + i' / length
      let at' := i' % length
      if 0x110000 ≤ n ∨ (0xD800 ≤ n ∧ n < 0xE000) then none
      else
        insertions fuel rest n (at' + 1) (adapt delta length (i == 0 && label.all fun c => c.toNat < 0x80))
          (label.take at' ++ Char.ofNat n :: label.drop at')

/-- The label that an ASCII form writes. -/
def decode? (cs : List Char) : Option (List Char) :=
  let behind := cs.reverse.takeWhile (· != '-') |>.reverse
  let ascii := cs.take (cs.length - behind.length - 1)
  insertions cs.length behind 0x80 0 72 ascii

end Punycode
end Url
end PatronGateway
