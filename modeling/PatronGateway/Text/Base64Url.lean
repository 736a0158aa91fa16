import PatronGateway.Text.Utf8

/-!
# Base64url without padding

Three bytes are written with four digits of the URL-safe alphabet; one or two
bytes at the end with two or three.  Reading refuses padding, a single digit at
the end, and digits that have bits beyond the last byte, so that every row of
bytes has one written form.
-/

namespace PatronGateway
namespace Text
namespace Base64Url

/-- A digit: a number of six bits. -/
abbrev Sextet := Fin 64

/-- The character of a digit. -/
def toChar (d : Sextet) : Char :=
  let n := d.val
  if n < 26 then Char.ofNat (65 + n)
  else if n < 52 then Char.ofNat (71 + n)
  else if n < 62 then Char.ofNat (n - 4)
  else if n = 62 then '-'
  else '_'

/-- The digit that a character stands for, if it is one. -/
def ofChar? (c : Char) : Option Sextet :=
  let n := c.toNat
  if h : 65 ≤ n ∧ n ≤ 90 then some ⟨n - 65, by omega⟩
  else if h : 97 ≤ n ∧ n ≤ 122 then some ⟨n - 71, by omega⟩
  else if h : 48 ≤ n ∧ n ≤ 57 then some ⟨n + 4, by omega⟩
  else if c = '-' then some 62
  else if c = '_' then some 63
  else none

@[simp] theorem ofChar?_toChar (d : Sextet) : ofChar? (toChar d) = some d := by
  revert d; decide

/-- The digit of the lowest six bits of a number. -/
def sextet (n : Nat) : Sextet := Fin.ofNat 64 n

/-- The digits of bytes. -/
def digits : Bytes → List Sextet
  | [] => []
  | [a] => [sextet (a.toNat / 4), sextet (a.toNat * 16)]
  | [a, b] =>
    [sextet (a.toNat / 4), sextet (a.toNat * 16 + b.toNat / 16), sextet (b.toNat * 4)]
  | a :: b :: c :: rest =>
    sextet (a.toNat / 4) :: sextet (a.toNat * 16 + b.toNat / 16) ::
      sextet (b.toNat * 4 + c.toNat / 64) :: sextet c.toNat :: digits rest

/-- The bytes that digits write, if no bits are left over. -/
def bytes? : List Sextet → Option Bytes
  | [] => some []
  | [_] => none
  | [a, b] =>
    if b.val % 16 = 0 then some [UInt8.ofNat (a.val * 4 + b.val / 16)] else none
  | [a, b, c] =>
    if c.val % 4 = 0 then
      some [UInt8.ofNat (a.val * 4 + b.val / 16), UInt8.ofNat (b.val * 16 + c.val / 4)]
    else none
  | a :: b :: c :: d :: rest =>
    (bytes? rest).map fun bs =>
      UInt8.ofNat (a.val * 4 + b.val / 16) :: UInt8.ofNat (b.val * 16 + c.val / 4) ::
        UInt8.ofNat (c.val * 64 + d.val) :: bs

/-- The text of bytes. -/
def encode (bs : Bytes) : List Char := (digits bs).map toChar

/-- The bytes that a text writes. -/
def decode? (cs : List Char) : Option Bytes := (cs.mapM ofChar?).bind bytes?

end Base64Url
end Text
end PatronGateway
