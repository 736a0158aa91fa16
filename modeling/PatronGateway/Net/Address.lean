import PatronGateway.Text.Digit
import PatronGateway.Text.Hex
import PatronGateway.Text.Split

/-!
# Internet addresses

An address has four octets or eight pieces of 16 bits.  Both forms are read
strictly: no leading zeros in an octet, no zone behind the pieces.  A double
colon stands for at least one zero piece, and the last two pieces may be written
as four octets.
-/

namespace PatronGateway
namespace Net

/-- Reads an octet. -/
def octet? (cs : List Char) : Option Nat :=
  match Text.natural? cs with
  | some n => if n < 256 ∧ (cs.length = 1 ∨ cs.head? ≠ some '0') then some n else none
  | none => none

/-- Reads four octets with points between them. -/
def octets? (cs : List Char) : Option (List Nat) :=
  ((Text.splitOn '.' cs).mapM octet?).filter fun os => os.length = 4

/-- Reads a piece of 16 bits. -/
def piece? (cs : List Char) : Option Nat :=
  if cs.isEmpty ∨ 4 < cs.length then none else Text.digitsIn? 16 cs

/-- The two pieces that four octets make. -/
def embedded? (cs : List Char) : Option (List Nat) :=
  match octets? cs with
  | some [a, b, c, d] => some [a * 256 + b, c * 256 + d]
  | _ => none

/-- Reads a row of pieces with colons between them; the last two may be four
octets if the row ends the address. -/
def row? (final : Bool) (cs : List Char) : Option (List Nat) :=
  if cs.isEmpty then some []
  else
    let parts := Text.splitOn ':' cs
    match parts.getLast? with
    | some last =>
      if final && last.contains '.' then do
        let leading ← parts.dropLast.mapM piece?
        return leading ++ (← embedded? last)
      else parts.mapM piece?
    | none => none

/-- Cuts a text at its first double colon. -/
def splitGap? : List Char → Option (List Char × List Char)
  | ':' :: ':' :: rest => some ([], rest)
  | c :: rest => (splitGap? rest).map fun p => (c :: p.1, p.2)
  | [] => none

/-- Reads eight pieces. -/
def pieces? (cs : List Char) : Option (List Nat) :=
  match splitGap? cs with
  | some (before, after) => do
    let left ← row? false before
    let right ← row? true after
    if left.length + right.length ≤ 7 then
      some (left ++ List.replicate (8 - left.length - right.length) 0 ++ right)
    else none
  | none => (row? true cs).filter fun ps => ps.length = 8

/-- The longest row of zeros: where it starts and how long it is; of several the
first. -/
def longestZeros (pieces : List Nat) : Nat × Nat :=
  (List.range pieces.length).foldl (fun best i =>
    let run := ((pieces.drop i).takeWhile (· == 0)).length
    if best.2 < run then (i, run) else best) (0, 0)

/-- The text of four octets. -/
def octetsText (octets : List Nat) : List Char :=
  List.intercalate ['.'] (octets.map Text.decimal)

/-- The text of eight pieces; their longest row of at least two zeros is left
out. -/
def piecesText (pieces : List Nat) : List Char :=
  let join (ps : List Nat) := List.intercalate [':'] (ps.map (Nat.toDigits 16))
  let (start, length) := longestZeros pieces
  if length < 2 then join pieces
  else join (pieces.take start) ++ [':', ':'] ++ join (pieces.drop (start + length))

/-- An internet address. -/
inductive Address where
  | ipv4 (octets : List Nat)
  | ipv6 (pieces : List Nat)
  deriving DecidableEq, Repr

namespace Address

/-- The address of four octets that stands for every address of a machine. -/
def unspecified : Address :=
  .ipv4 [0, 0, 0, 0]

/-- Reads an address of either form. -/
def read? (text : String) : Option Address :=
  match octets? text.toList with
  | some os => some (.ipv4 os)
  | none => (pieces? text.toList).map .ipv6

/-- The text of an address; pieces that embed four octets show them. -/
def toChars : Address → List Char
  | ipv4 octets => octetsText octets
  | ipv6 [0, 0, 0, 0, 0, 0xFFFF, a, b] =>
    "::ffff:".toList ++ octetsText [a / 256, a % 256, b / 256, b % 256]
  | ipv6 pieces => piecesText pieces

/-- The text of an address with a port. -/
def withPort (address : Address) (port : Nat) : String :=
  let host := match address with
    | ipv4 _ => address.toChars
    | ipv6 _ => '[' :: address.toChars ++ [']']
  String.ofList (host ++ ':' :: Text.decimal port)

end Address
end Net
end PatronGateway
