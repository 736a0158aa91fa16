import PatronGateway.Text.Hex

/-!
# UUIDs

A UUID is a number of 128 bits.  It is spelled with 32 hexadecimal digits, or
with the digits in five groups of 8, 4, 4, 4 and 12 joined by hyphens; the
grouped spelling may stand in braces or behind `urn:uuid:`, whose letters may
have either case.  Two spellings name the same UUID when they have the same
digits up to case.
-/

namespace PatronGateway
namespace Text

/-- A number of 128 bits. -/
structure Uuid where
  value : Nat
  deriving DecidableEq, Repr

namespace Uuid

/-- The lengths of the five groups. -/
def groups : List Nat := [8, 4, 4, 4, 12]

/-- The number of a row of hexadecimal digits. -/
def ofNibbles (ds : List Nibble) : Uuid :=
  ⟨ds.foldl (fun n d => 16 * n + d.val) 0⟩

/-- Reads the digits of groups of given lengths with hyphens between them. -/
def readGroups : List Nat → List Char → Option (List Nibble)
  | [], cs => if cs = [] then some [] else none
  | [n], cs => if cs.length = n then cs.mapM Nibble.ofChar? else none
  | n :: ns, cs => do
    let ds ← (cs.take n).mapM Nibble.ofChar?
    match cs.drop n with
    | '-' :: rest => return ds ++ (← readGroups ns rest)
    | _ => none

/-- Reads the spelling in groups. -/
def readHyphenated? (cs : List Char) : Option Uuid :=
  (readGroups groups cs).map ofNibbles

/-- Reads the spelling with digits alone. -/
def readSimple? (cs : List Char) : Option Uuid :=
  if cs.length = 32 then (cs.mapM Nibble.ofChar?).map ofNibbles else none

/-- The text before the groups in a URN. -/
def urnLead : List Char := "urn:uuid:".toList

/-- Takes the braces away from a text that stands in braces. -/
def unbraced? : List Char → Option (List Char)
  | '\x7b' :: rest => if rest.getLast? = some '\x7d' then some rest.dropLast else none
  | _ => none

/-- Takes the lead away from a URN. -/
def unurned? (cs : List Char) : Option (List Char) :=
  if (cs.take urnLead.length).map Char.toLower = urnLead then some (cs.drop urnLead.length)
  else none

/-- Reads a UUID in any of its spellings. -/
def ofChars? (cs : List Char) : Option Uuid :=
  readSimple? cs <|> readHyphenated? cs <|>
    (unbraced? cs).bind readHyphenated? <|> (unurned? cs).bind readHyphenated?

/-- Reads a UUID in any of its spellings. -/
def read? (s : String) : Option Uuid := ofChars? s.toList

/-- Puts hyphens between groups of given lengths. -/
def hyphenate : List Nat → List Char → List Char
  | [], cs => cs
  | [_], cs => cs
  | n :: ns, cs => cs.take n ++ '-' :: hyphenate ns (cs.drop n)

/-- The spelling in groups of the UUID with the digits of sixteen bytes. -/
def spell (bytes : Bytes) : String :=
  String.ofList (hyphenate groups (hexText bytes))

/-- Marks sixteen random bytes as a UUID of the random kind: version 4, in the
common layout. -/
def markRandom (bytes : Bytes) : Bytes :=
  (bytes.modify 6 fun b => b % 16 + 64).modify 8 fun b => b % 64 + 128

end Uuid
end Text
end PatronGateway
