import PatronGateway.Text.Hex

/-!
# Percent coding

A byte is written as `%` and two hexadecimal digits in upper case where a class
of characters asks for it; bytes that are not ASCII always are.  Reading turns
every such triple back into its byte and leaves all else alone, also a `%`
without two digits behind it.
-/

namespace PatronGateway
namespace Url

open Text (Nibble)

/-- A byte as `%` and two digits. -/
def triple (b : UInt8) : List Char :=
  ['%', (Nibble.high b).toUpperChar, (Nibble.low b).toUpperChar]

/-- A class of ASCII characters. -/
abbrev CharClass := Char → Bool

/-- A byte under a class: written as a triple if its character is in the class
or not ASCII. -/
def percentByte (escaped : CharClass) (b : UInt8) : List Char :=
  if b.toNat < 0x80 ∧ !escaped (Char.ofNat b.toNat) then [Char.ofNat b.toNat] else triple b

/-- Bytes under a class. -/
def percentBytes (escaped : CharClass) (bs : Bytes) : List Char :=
  bs.flatMap (percentByte escaped)

/-- A character under a class. -/
def percentChar (escaped : CharClass) (c : Char) : List Char :=
  percentBytes escaped (String.utf8EncodeChar c)

/-- A text under a class. -/
def percentEncode (escaped : CharClass) (cs : List Char) : List Char :=
  cs.flatMap (percentChar escaped)

/-- Whether a byte is the `%` of a triple. -/
def percentSign : UInt8 := 0x25

/-- The digit of an ASCII byte. -/
def nibbleOfByte? (b : UInt8) : Option Nibble := Nibble.ofChar? (Char.ofNat b.toNat)

/-- Turns every triple into its byte. -/
def percentDecode : Bytes → Bytes
  | [] => []
  | [a] => [a]
  | [a, b] => [a, b]
  | p :: a :: b :: rest =>
    if p = percentSign then
      match nibbleOfByte? a, nibbleOfByte? b with
      | some high, some low => Nibble.byte high low :: percentDecode rest
      | _, _ => p :: percentDecode (a :: b :: rest)
    else
      p :: percentDecode (a :: b :: rest)

/-- The bytes that a text with triples stands for. -/
def percentDecodeText (cs : List Char) : Bytes :=
  percentDecode (cs.flatMap String.utf8EncodeChar)

/-- The control characters of ASCII. -/
def isControl : CharClass := fun c => c.toNat < 0x20 || c.toNat == 0x7F

/-- What is escaped in a fragment. -/
def fragmentClass : CharClass := fun c =>
  isControl c || c ∈ [' ', '"', '<', '>', '\x60']

/-- What is escaped in a path. -/
def pathClass : CharClass := fun c =>
  fragmentClass c || c ∈ ['#', '?', '\x7b', '\x7d']

/-- What is escaped in one segment of a path. -/
def segmentClass : CharClass := fun c => pathClass c || c ∈ ['/', '%']

/-- What is escaped in one segment of a path where a backslash divides segments
as well. -/
def specialSegmentClass : CharClass := fun c => segmentClass c || c == '\\'

/-- What is escaped in the name and the password before a host. -/
def userinfoClass : CharClass := fun c =>
  pathClass c || c ∈ ['/', ':', ';', '=', '@', '[', '\\', ']', '^', '|']

/-- What is escaped in a query. -/
def queryClass : CharClass := fun c =>
  isControl c || c ∈ [' ', '"', '#', '<', '>']

/-- What is escaped in the query of a special scheme. -/
def specialQueryClass : CharClass := fun c => queryClass c || c.toNat == 0x27

end Url
end PatronGateway
