/-!
# UTF-8

Bytes are read from left to right into code points.  Where a sequence breaks
off, the longest prefix that could have begun a well-formed sequence counts as
one undecodable stretch, and reading goes on at the next byte.
-/

namespace PatronGateway

/-- The bytes of a message body or of an encoded text. -/
abbrev Bytes := List UInt8

namespace Text
namespace Utf8

/-- The bytes of a text. -/
def encode (s : String) : Bytes :=
  s.toList.flatMap String.utf8EncodeChar

/-- The shape that a leading byte announces: how many bytes follow, the bounds
of the first of these, and the bits that the leading byte contributes. -/
structure Lead where
  following : Nat
  low : Nat
  high : Nat
  bits : Nat

/-- What a leading byte announces; no well-formed sequence of several bytes
begins with any other byte. -/
def lead? (b : UInt8) : Option Lead :=
  let n := b.toNat
  if 0xC2 ≤ n && n ≤ 0xDF then some ⟨1, 0x80, 0xBF, n - 0xC0⟩
  else if n == 0xE0 then some ⟨2, 0xA0, 0xBF, 0⟩
  else if n == 0xED then some ⟨2, 0x80, 0x9F, 0xD⟩
  else if 0xE1 ≤ n && n ≤ 0xEF then some ⟨2, 0x80, 0xBF, n - 0xE0⟩
  else if n == 0xF0 then some ⟨3, 0x90, 0xBF, 0⟩
  else if n == 0xF4 then some ⟨3, 0x80, 0x8F, 4⟩
  else if 0xF1 ≤ n && n ≤ 0xF3 then some ⟨3, 0x80, 0xBF, n - 0xF0⟩
  else none

/-- Where reading stands: between two code points, or inside a sequence. -/
inductive Position where
  | start
  | inside (awaited low high bits : Nat)

/-- The start of a code point: the position after the byte, and what the byte
completes. -/
def begin (b : UInt8) : Position × Option (Option Char) :=
  if b.toNat < 0x80 then
    (.start, some (some (Char.ofNat b.toNat)))
  else
    match lead? b with
    | some l => (.inside l.following l.low l.high l.bits, none)
    | none => (.start, some none)

/-- What has been read so far: the position, and the code points in reverse. -/
structure Progress where
  position : Position
  reversed : List (Option Char)

/-- Adds what a byte completes, if it completes anything. -/
def Progress.push (p : Progress) (next : Position × Option (Option Char)) : Progress :=
  ⟨next.1, match next.2 with
    | some c => c :: p.reversed
    | none => p.reversed⟩

/-- Reads one byte. -/
def Progress.feed (p : Progress) (b : UInt8) : Progress :=
  match p.position with
  | .start => p.push (begin b)
  | .inside awaited low high bits =>
    if low ≤ b.toNat ∧ b.toNat ≤ high then
      let bits := bits * 64 + (b.toNat - 0x80)
      if awaited ≤ 1 then p.push (.start, some (some (Char.ofNat bits)))
      else p.push (.inside (awaited - 1) 0x80 0xBF bits, none)
    else
      (p.push (.start, some none)).push (begin b)

/-- Ends the reading; a sequence that is still open breaks off here. -/
def Progress.finish (p : Progress) : List (Option Char) :=
  match p.position with
  | .start => p.reversed.reverse
  | .inside .. => (none :: p.reversed).reverse

/-- Reads bytes into code points; `none` stands for an undecodable stretch. -/
def scan (bs : Bytes) : List (Option Char) :=
  (bs.foldl Progress.feed ⟨.start, []⟩).finish

/-- The text of well-formed bytes. -/
def decode? (bs : Bytes) : Option String :=
  ((scan bs).mapM id).map String.ofList

/-- The text of bytes, with U+FFFD for each undecodable stretch. -/
def decodeLossy (bs : Bytes) : String :=
  String.ofList ((scan bs).map (·.getD '\uFFFD'))

end Utf8
end Text
end PatronGateway
