import PatronGateway.Json.Document
import PatronGateway.Text.Hex
import PatronGateway.Text.Utf8

/-!
# Reading JSON

`Document.read?` checks a whole text against the JSON grammar and returns the
document that it writes.  Only the four blank characters of that grammar may
stand between tokens, so that a byte order mark is an error like any other
stray character.
-/

namespace PatronGateway
namespace Json

open Text (Digit)

/-- The blank characters of the JSON grammar. -/
def isSpace (c : Char) : Bool :=
  c == ' ' || c == '\n' || c == '\t' || c == '\r'

/-- Drops the blank characters at the front. -/
def skipSpace (cs : List Char) : List Char :=
  cs.dropWhile isSpace

/-- A part of a string: a character, or half of a surrogate pair. -/
inductive Piece where
  | char (c : Char)
  | half (unit : Nat)

/-- What an escape of four hexadecimal digits stands for. -/
def Piece.ofUnit (unit : Nat) : Piece :=
  if 0xD800 ≤ unit ∧ unit ≤ 0xDFFF then .half unit else .char (Char.ofNat unit)

/-- The character after a backslash in the short escapes. -/
def shortEscape? : Char → Option Char
  | '"' => some '"'
  | '\\' => some '\\'
  | '/' => some '/'
  | 'b' => some '\x08'
  | 'f' => some '\x0c'
  | 'n' => some '\n'
  | 'r' => some '\r'
  | 't' => some '\t'
  | _ => none

/-- Reads the inside of a string up to its closing quote; the pieces come out
in reverse. -/
def readPieces (reversed : List Piece) : List Char → Option (List Piece × List Char)
  | [] => none
  | '"' :: rest => some (reversed, rest)
  | '\\' :: 'u' :: a :: b :: c :: d :: rest =>
    match Text.digitsIn? 16 [a, b, c, d] with
    | some unit => readPieces (.ofUnit unit :: reversed) rest
    | none => none
  | '\\' :: e :: rest =>
    match shortEscape? e with
    | some c => readPieces (.char c :: reversed) rest
    | none => none
  | c :: rest =>
    if c.toNat < 0x20 ∨ c = '\\' then none else readPieces (.char c :: reversed) rest

/-- The characters of a string in reverse, put together from its pieces in
reverse: a low half takes the high half before it, and no half may be left. -/
def joinPieces (joined : List Char) : List Piece → Option (List Char)
  | [] => some joined
  | .char c :: rest => joinPieces (c :: joined) rest
  | .half low :: .half high :: rest =>
    if high < 0xDC00 ∧ 0xDC00 ≤ low then
      joinPieces (Char.ofNat (0x10000 + (high - 0xD800) * 0x400 + (low - 0xDC00)) :: joined) rest
    else
      none
  | .half _ :: [] => none
  | .half _ :: .char _ :: _ => none

/-- Reads a string after its opening quote. -/
def readText (cs : List Char) : Option (Option String × List Char) :=
  match readPieces [] cs with
  | some (pieces, rest) => some ((joinPieces [] pieces).map String.ofList, rest)
  | none => none

/-- Reads the digits of a fraction, if a point announces one. -/
def readFraction : List Char → Option (Option (List Digit) × List Char)
  | '.' :: rest =>
    match Text.takeDigits rest with
    | ([], _) => none
    | (ds, rest) => some (some ds, rest)
  | cs => some (none, cs)

/-- Reads the sign and the digits of an exponent. -/
def readPower (cs : List Char) : Option (Option Exponent × List Char) :=
  let (negative, cs) := match cs with
    | '-' :: rest => (true, rest)
    | '+' :: rest => (false, rest)
    | _ => (false, cs)
  match Text.takeDigits cs with
  | ([], _) => none
  | (ds, rest) => some (some ⟨negative, ds⟩, rest)

/-- Reads an exponent, if a letter announces one. -/
def readExponent : List Char → Option (Option Exponent × List Char)
  | 'e' :: rest => readPower rest
  | 'E' :: rest => readPower rest
  | cs => some (none, cs)

/-- Reads a number after its sign; several digits must not begin with zero. -/
def readNumeral (negative : Bool) (cs : List Char) : Option (Numeral × List Char) :=
  match Text.takeDigits cs with
  | ([], _) => none
  | (d :: ds, rest) =>
    if d = 0 ∧ ds ≠ [] then
      none
    else
      match readFraction rest with
      | none => none
      | some (fraction, rest) =>
        match readExponent rest with
        | none => none
        | some (exponent, rest) => some (⟨negative, d :: ds, fraction, exponent⟩, rest)

mutual

/-- Reads one value; the blanks before it have been dropped. -/
def readValue : Nat → List Char → Option (Document × List Char)
  | 0, _ => none
  | fuel + 1, cs =>
    match cs with
    | 'n' :: 'u' :: 'l' :: 'l' :: rest => some (.null, rest)
    | 't' :: 'r' :: 'u' :: 'e' :: rest => some (.bool true, rest)
    | 'f' :: 'a' :: 'l' :: 's' :: 'e' :: rest => some (.bool false, rest)
    | '"' :: rest =>
      match readText rest with
      | some (s, rest) => some (.text s, rest)
      | none => none
    | '[' :: rest =>
      match skipSpace rest with
      | ']' :: rest => some (.array [], rest)
      | rest =>
        match readItems fuel rest with
        | some (items, rest) => some (.array items, rest)
        | none => none
    | '\x7b' :: rest =>
      match skipSpace rest with
      | '\x7d' :: rest => some (.object [], rest)
      | rest =>
        match readMembers fuel rest with
        | some (members, rest) => some (.object members, rest)
        | none => none
    | '-' :: rest =>
      match readNumeral true rest with
      | some (n, rest) => some (.number n, rest)
      | none => none
    | cs =>
      match readNumeral false cs with
      | some (n, rest) => some (.number n, rest)
      | none => none

/-- Reads the items of an array up to its closing bracket. -/
def readItems : Nat → List Char → Option (List Document × List Char)
  | 0, _ => none
  | fuel + 1, cs =>
    match readValue fuel cs with
    | none => none
    | some (d, rest) =>
      match skipSpace rest with
      | ']' :: rest => some ([d], rest)
      | ',' :: rest =>
        match readItems fuel (skipSpace rest) with
        | some (ds, rest) => some (d :: ds, rest)
        | none => none
      | _ => none

/-- Reads the members of an object up to its closing brace. -/
def readMembers : Nat → List Char → Option (List (Option String × Document) × List Char)
  | 0, _ => none
  | fuel + 1, cs =>
    match cs with
    | '"' :: rest =>
      match readText rest with
      | none => none
      | some (name, rest) =>
        match skipSpace rest with
        | ':' :: rest =>
          match readValue fuel (skipSpace rest) with
          | none => none
          | some (d, rest) =>
            match skipSpace rest with
            | '\x7d' :: rest => some ([(name, d)], rest)
            | ',' :: rest =>
              match readMembers fuel (skipSpace rest) with
              | some (ms, rest) => some ((name, d) :: ms, rest)
              | none => none
            | _ => none
        | _ => none
    | _ => none

end

/-- Reads characters that hold one value and, besides it, only blanks. -/
def readAll? (cs : List Char) : Option Document :=
  match readValue (2 * cs.length + 2) (skipSpace cs) with
  | some (d, rest) => if skipSpace rest = [] then some d else none
  | none => none

namespace Document

/-- The document that a text writes. -/
def read? (text : String) : Option Document :=
  readAll? text.toList

mutual

/-- Takes the text away from every string that holds a given character. -/
def withhold (mark : Char) : Document → Document
  | .text s => .text (s.filter fun s => !s.toList.contains mark)
  | .array items => .array (withholdItems mark items)
  | .object members => .object (withholdMembers mark members)
  | d => d

/-- Does the same to each of several documents. -/
def withholdItems (mark : Char) : List Document → List Document
  | [] => []
  | d :: rest => d.withhold mark :: withholdItems mark rest

/-- Does the same to the names and the values of members. -/
def withholdMembers (mark : Char) :
    List (Option String × Document) → List (Option String × Document)
  | [] => []
  | m :: rest =>
    (m.1.filter fun s => !s.toList.contains mark, m.2.withhold mark) ::
      withholdMembers mark rest

end

/-- A character that is not among the given ones. -/
def unusedChar (used : List Char) : Char :=
  ((List.range (used.length + 1)).map fun i => Char.ofNat (0xF0000 + i)).find?
    (fun c => !used.contains c) |>.getD '\uFFFD'

/-- The document that bytes write.  Undecodable bytes may stand inside strings,
but such a string has no text. -/
def readBytes? (bytes : Bytes) : Option Document :=
  let symbols := Text.Utf8.scan bytes
  if symbols.all Option.isSome then
    readAll? (symbols.filterMap id)
  else
    let mark := unusedChar (symbols.filterMap id)
    (readAll? (symbols.map (·.getD mark))).map (withhold mark)

end Document
end Json
end PatronGateway
