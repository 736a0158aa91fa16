import PatronGateway.Text.Utf8

/-!
# Hexadecimal digits

A nibble is a number below sixteen.  A byte is written with two nibbles; letters
of either case are read, and the writer chooses the case.
-/

namespace PatronGateway
namespace Text

/-- A hexadecimal digit. -/
abbrev Nibble := Fin 16

namespace Nibble

/-- The digit that an ASCII character stands for, in either case. -/
def ofChar? (c : Char) : Option Nibble :=
  let n := c.toNat
  if h : 48 ≤ n ∧ n < 58 then some ⟨n - 48, by omega⟩
  else if h : 97 ≤ n ∧ n < 103 then some ⟨n - 87, by omega⟩
  else if h : 65 ≤ n ∧ n < 71 then some ⟨n - 55, by omega⟩
  else none

/-- The character of a digit, letters in lower case. -/
def toLowerChar (d : Nibble) : Char :=
  if d.val < 10 then Char.ofNat (48 + d.val) else Char.ofNat (87 + d.val)

/-- The character of a digit, letters in upper case. -/
def toUpperChar (d : Nibble) : Char :=
  if d.val < 10 then Char.ofNat (48 + d.val) else Char.ofNat (55 + d.val)

/-- The upper half of a byte. -/
def high (b : UInt8) : Nibble := Fin.ofNat 16 (b.toNat / 16)

/-- The lower half of a byte. -/
def low (b : UInt8) : Nibble := Fin.ofNat 16 b.toNat

/-- The byte of two digits. -/
def byte (high low : Nibble) : UInt8 := UInt8.ofNat (high.val * 16 + low.val)

@[simp] theorem ofChar?_toLowerChar (d : Nibble) : ofChar? d.toLowerChar = some d := by
  revert d; decide

@[simp] theorem ofChar?_toUpperChar (d : Nibble) : ofChar? d.toUpperChar = some d := by
  revert d; decide

end Nibble

/-- Whether a character is a hexadecimal digit. -/
def isHexChar (c : Char) : Bool := (Nibble.ofChar? c).isSome

/-- The number of a row of characters of a base, if they all are digits. -/
def digitsIn? (radix : Nat) (cs : List Char) : Option Nat :=
  (cs.mapM Nibble.ofChar?).bind fun ds =>
    if ds.all (·.val < radix) then some (ds.foldl (fun n d => radix * n + d.val) 0) else none

/-- Takes the character whose code a number of hexadecimal digits at the front is. -/
def hexScalar? (width : Nat) (cs : List Char) : Option (Char × List Char) := do
  let n ← (digitsIn? 16 (cs.take width)).filter fun _ => width ≤ cs.length
  if n.isValidChar then return (Char.ofNat n, cs.drop width) else none

/-- The bytes that a row of pairs of hexadecimal digits writes. -/
def hexBytes? : List Char → Option Bytes
  | [] => some []
  | [_] => none
  | a :: b :: rest => do
    let a ← Nibble.ofChar? a
    let b ← Nibble.ofChar? b
    let bs ← hexBytes? rest
    return Nibble.byte a b :: bs

/-- Bytes as pairs of hexadecimal digits, letters in lower case. -/
def hexText (bs : Bytes) : List Char :=
  bs.flatMap fun b => [(Nibble.high b).toLowerChar, (Nibble.low b).toLowerChar]

end Text
end PatronGateway
