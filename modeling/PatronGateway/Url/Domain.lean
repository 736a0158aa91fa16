import PatronGateway.Unicode.Composition
import PatronGateway.Unicode.Direction
import PatronGateway.Unicode.DomainMapping
import PatronGateway.Unicode.Joining
import PatronGateway.Url.Punycode

/-!
# Domain names in ASCII

A domain name of any script has a form in ASCII.  Its characters are mapped and
composed, and then each label that holds more than ASCII is written in Punycode behind
`xn--`.  A label that is written so already is read and checked: it must have come from
a label that mapping leaves as it is.

Three rules concern whole labels: none begins with a mark, the two invisible joiners
stand only where they make a difference, and a name in which some label runs from right
to left mixes the directions only in ways that read back unambiguously.
-/

namespace PatronGateway
namespace Url
namespace Domain

open Unicode (Direction)

/-- A label: its characters, and its form in ASCII. -/
structure Label where
  chars : List Char
  ascii : List Char
  deriving DecidableEq, Repr

/-- The characters of a name, mapped and composed. -/
def normalize? (cs : List Char) : Option (List Char) :=
  (cs.mapM Unicode.mapDomainChar?).map fun parts => Unicode.compose parts.flatten

/-- Whether a character may stand where nothing is mapped. -/
def isSettled (c : Char) : Bool :=
  Unicode.mapDomainChar? c = some [c]

/-- The joiner that may also stand between letters that join. -/
def nonJoiner : Char := '\u200C'

/-- The joiner that needs a killed vowel before it. -/
def joiner : Char := '\u200D'

/-- Whether the characters before a joiner, the last one first, and those behind it let
it stand. -/
def allowsJoiner (c : Char) (before after : List Char) : Bool :=
  match before with
  | [] => false
  | last :: _ =>
    Unicode.isVirama last ||
      (c == nonJoiner &&
        ((before.dropWhile Unicode.isTransparent).head?.any Unicode.joinsBehind) &&
        ((after.dropWhile Unicode.isTransparent).head?.any Unicode.joinsBefore))

/-- Whether every joiner may stand where it does; the characters that have been passed
are held in reverse. -/
def areJoinersPlaced (before : List Char) : List Char → Bool
  | [] => true
  | c :: rest =>
    (if c == nonJoiner || c == joiner then allowsJoiner c before rest else true) &&
      areJoinersPlaced (c :: before) rest

/-- The longest label that is turned into ASCII. -/
def longestLabel : Nat := 1000

/-- Whether the rules for a label on its own hold. -/
def isSound (label : List Char) : Bool :=
  !(label.head?.any Unicode.isMark) && areJoinersPlaced [] label &&
    (label.all (fun c => c.toNat < 0x80) || label.length ≤ longestLabel)

/-- What a label in ASCII begins with that stands for another one. -/
def asciiLead : List Char := "xn--".toList

/-- The longest row of digits that is read behind it. -/
def longestDigits : Nat := 2000

/-- Reads the label that stands behind the lead of a label in ASCII. -/
def decode? (digits : List Char) : Option (List Char) :=
  if digits.getLast?.all (· == '-') || longestDigits < digits.length then none
  else (Punycode.decode? digits).filter fun chars =>
    chars.all isSettled && Unicode.compose chars == chars && !chars.contains '.'

/-- The label of normalized characters. -/
def label? (cs : List Char) : Option Label :=
  match Text.dropLead? asciiLead cs with
  | some digits =>
    if cs.all fun c => c.toNat < 0x80 then
      ((decode? digits).filter isSound).map fun chars => ⟨chars, cs⟩
    else none
  | none =>
    if !isSound cs then none
    else if cs.all fun c => c.toNat < 0x80 then some ⟨cs, cs⟩
    else some ⟨cs, asciiLead ++ Punycode.encode cs⟩

/-- Whether a character makes its name run from right to left somewhere. -/
def turns (c : Char) : Bool :=
  Unicode.direction c ∈ [.rightToLeft, .arabicNumber]

/-- The directions that may occur in a label that runs from left to right. -/
def isForward (d : Direction) : Bool :=
  d ∈ [.leftToRight, .europeanNumber, .neutral, .nonspacing]

/-- The directions that may occur in a label that runs from right to left. -/
def isBackward (d : Direction) : Bool :=
  d ∈ [.rightToLeft, .arabicNumber, .europeanNumber, .neutral, .nonspacing]

/-- Whether a label may stand in a name that runs from right to left somewhere: its
first character tells its direction, its last one fits to it, and numbers of two kinds
are not mixed. -/
def isDirected (label : List Char) : Bool :=
  match label.map Unicode.direction with
  | [] => true
  | first :: rest =>
    let last := (rest.reverse.dropWhile (· == .nonspacing)).headD first
    match first with
    | .leftToRight => rest.all isForward && last ∈ [.leftToRight, .europeanNumber]
    | .rightToLeft =>
      rest.all isBackward && last ∈ [.rightToLeft, .arabicNumber, .europeanNumber] &&
        !(rest.contains .arabicNumber && rest.contains .europeanNumber)
    | _ => false

/-- The ASCII form of a name; none where the name is faulty. -/
def toAscii? (cs : List Char) : Option (List Char) := do
  let labels ← (Text.splitOn '.' (← normalize? cs)).mapM label?
  if labels.any (fun l => l.chars.any turns) && !labels.all (fun l => isDirected l.chars) then none
  else return List.intercalate ['.'] (labels.map Label.ascii)

end Domain
end Url
end PatronGateway
