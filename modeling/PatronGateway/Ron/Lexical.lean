import PatronGateway.Text.Hex
import PatronGateway.Text.Utf8
import PatronGateway.Unicode.Name

/-!
# The lexical level of RON

Blanks, remarks, names, and the texts in quotes.  Every function takes something away
from the front of a text and gives the rest, or `none` where the text has no such
thing.
-/

namespace PatronGateway
namespace Ron

/-- Whether a character separates tokens. -/
def isSpace (c : Char) : Bool :=
  let n := c.toNat
  (0x09 ≤ n && n ≤ 0x0D) || n == 0x20 || n == 0x85 || n == 0x200E || n == 0x200F || n == 0x2028 ||
    n == 0x2029

/-- What follows a remark over several lines; such remarks may be nested. -/
def afterRemark? (depth : Nat) : List Char → Option (List Char)
  | '/' :: '*' :: rest => afterRemark? (depth + 1) rest
  | '*' :: '/' :: rest => if depth = 0 then some rest else afterRemark? (depth - 1) rest
  | _ :: rest => afterRemark? depth rest
  | [] => none

/-- Drops blanks and remarks; a slash that begins no remark is an error.  The fuel bounds
their number. -/
def skip? : Nat → List Char → Option (List Char)
  | 0, cs => some cs
  | fuel + 1, cs =>
    match cs.dropWhile isSpace with
    | '/' :: '/' :: rest => skip? fuel (rest.dropWhile (· != '\n'))
    | '/' :: '*' :: rest => (afterRemark? 0 rest).bind (skip? fuel)
    | '/' :: _ => none
    | cs => some cs

/-- Drops blanks and remarks. -/
def skipSpace? (cs : List Char) : Option (List Char) :=
  skip? (cs.length + 1) cs

/-- Drops a comma and the blanks around it; whether there was one, and the rest. -/
def comma? (cs : List Char) : Option (Bool × List Char) := do
  match ← skipSpace? cs with
  | ',' :: rest => return (true, ← skipSpace? rest)
  | rest => return (false, rest)

/-- Whether a name may begin with a character. -/
def isNameStart (c : Char) : Bool :=
  c == '_' || Unicode.isIdentifierStart c

/-- Whether a raw name, one behind `r#`, may hold a character. -/
def isRawPart (c : Char) : Bool :=
  c == '.' || c == '+' || c == '-' || Unicode.isIdentifierPart c

/-- Takes a word that is not only the beginning of a longer one. -/
def word? (word : String) (cs : List Char) : Option (List Char) :=
  (Text.dropLead? word.toList cs).filter fun rest => !(rest.head?.any Unicode.isIdentifierPart)

/-- Whether a text in quotes begins here with a letter in front of it. -/
def beginsQuoted (cs : List Char) : Bool :=
  ["b\"", "b\x27", "br\"", "br#", "r\"", "r#\"", "r##"].any fun lead =>
    lead.toList.isPrefixOf cs

/-- Takes a name. -/
def name? (cs : List Char) : Option (List Char × List Char) :=
  if beginsQuoted cs then none
  else
    match cs with
    | 'r' :: '#' :: rest =>
      let name := rest.takeWhile isRawPart
      if name.isEmpty then none else some (name, rest.dropWhile isRawPart)
    | c :: rest =>
      if isNameStart c then
        some (c :: rest.takeWhile Unicode.isIdentifierPart, rest.dropWhile Unicode.isIdentifierPart)
      else none
    | [] => none

/-- Takes the name of a field, which has to be a raw one if it holds more than a name
may hold. -/
def fieldName? (cs : List Char) : Option (List Char × List Char) :=
  (name? cs).filter fun p =>
    "r#".toList.isPrefixOf cs || !(p.2.head?.any isRawPart)

/-- Takes a byte in two hexadecimal digits. -/
def hexByte? : List Char → Option (UInt8 × List Char)
  | a :: b :: rest => (Text.digitsIn? 16 [a, b]).map fun n => (UInt8.ofNat n, rest)
  | _ => none

/-- Takes more bytes, each behind its own `\x`, until they are the UTF-8 text of a
character; there may be so many. -/
def moreBytes? : Nat → Bytes → List Char → Option (Char × List Char)
  | 0, _, _ => none
  | fuel + 1, seen, cs => do
    match cs with
    | '\\' :: 'x' :: rest => do
      let (b, rest) ← hexByte? rest
      match (Text.Utf8.decode? (seen ++ [b])).map String.toList with
      | some [c] => return (c, rest)
      | _ => moreBytes? fuel (seen ++ [b]) rest
    | _ => none

/-- Takes the code of a character in braces. -/
def braced? : List Char → Option (Char × List Char)
  | '\x7b' :: rest => do
    let digits := rest.takeWhile (· != '\x7d')
    let n ← Text.digitsIn? 16 digits
    match rest.drop digits.length with
    | '\x7d' :: rest =>
      if digits.isEmpty || 6 < digits.length || !n.isValidChar then none
      else return (Char.ofNat n, rest)
    | _ => none
  | _ => none

/-- Takes what a backslash stands for together with what follows it.  The bytes of a
longer character may be written one by one where `several` holds. -/
def escape? (several : Bool) (cs : List Char) : Option (Char × List Char) := do
  match cs with
  | 'n' :: rest => return ('\n', rest)
  | 'r' :: rest => return ('\r', rest)
  | 't' :: rest => return ('\t', rest)
  | '0' :: rest => return ('\x00', rest)
  | 'u' :: rest => braced? rest
  | 'x' :: rest => do
    let (b, rest) ← hexByte? rest
    if b < 0x80 then return (Char.ofNat b.toNat, rest)
    else if several then moreBytes? 3 [b] rest
    else none
  | c :: rest => if c ∈ ['"', '\\', '\x27'] then return (c, rest) else none
  | [] => none

/-- Takes the rest of a text in quotes; the fuel bounds its length. -/
def quotedBody? : Nat → List Char → Option (List Char × List Char)
  | 0, _ => none
  | _, [] => none
  | fuel + 1, c :: rest =>
    if c = '"' then some ([], rest)
    else if c = '\\' then do
      let (e, rest) ← escape? true rest
      let (text, rest) ← quotedBody? fuel rest
      return (e :: text, rest)
    else do
      let (text, rest) ← quotedBody? fuel rest
      return (c :: text, rest)

/-- What stands before and behind the first occurrence of some characters. -/
def cutAt? (mark : List Char) : List Char → Option (List Char × List Char)
  | [] => none
  | c :: rest =>
    match Text.dropLead? mark (c :: rest) with
    | some rest => some ([], rest)
    | none => (cutAt? mark rest).map fun p => (c :: p.1, p.2)

/-- Takes a raw text behind the letter in front of it: without escapes, and with the same
number of hash signs at both ends. -/
def rawBody? (cs : List Char) : Option (List Char × List Char) :=
  let hashes := cs.takeWhile (· == '#')
  match cs.dropWhile (· == '#') with
  | '"' :: rest => cutAt? ('"' :: hashes) rest
  | _ => none

/-- Takes a text in quotes. -/
def string? : List Char → Option (List Char × List Char)
  | '"' :: rest => quotedBody? (rest.length + 1) rest
  | 'r' :: rest => rawBody? rest
  | _ => none

/-- Takes a character in apostrophes. -/
def char? : List Char → Option (Char × List Char)
  | '\x27' :: '\\' :: rest => do
    let (c, rest) ← escape? false rest
    match rest with
    | '\x27' :: rest => return (c, rest)
    | _ => none
  | '\x27' :: c :: '\x27' :: rest => some (c, rest)
  | _ => none

/-- Takes a byte that is written as a character of ASCII, behind the letter in front of
it. -/
def byte? (cs : List Char) : Option (Nat × List Char) :=
  match cs with
  | '\x27' :: '\\' :: 'x' :: rest => do
    let (b, rest) ← hexByte? rest
    match rest with
    | '\x27' :: rest => return (b.toNat, rest)
    | _ => none
  | cs => ((char? cs).filter fun p => p.1.toNat < 0x80).map fun p => (p.1.toNat, p.2)

/-- Takes the rest of a row of bytes in quotes; the fuel bounds its length. -/
def bytesBody? : Nat → List Char → Option (Bytes × List Char)
  | 0, _ => none
  | _, [] => none
  | _, '"' :: rest => some ([], rest)
  | fuel + 1, '\\' :: 'x' :: rest => do
    let (b, rest) ← hexByte? rest
    let (bytes, rest) ← bytesBody? fuel rest
    return (b :: bytes, rest)
  | fuel + 1, c :: rest => do
    let (c, rest) ← if c = '\\' then escape? true rest else some (c, rest)
    let (bytes, rest) ← bytesBody? fuel rest
    return (Text.Utf8.encode (String.ofList [c]) ++ bytes, rest)

/-- Takes a row of bytes in quotes, behind the letter in front of it. -/
def bytes? : List Char → Option (Bytes × List Char)
  | '"' :: rest => bytesBody? (rest.length + 1) rest
  | 'r' :: rest => (rawBody? rest).map fun p => (Text.Utf8.encode (String.ofList p.1), p.2)
  | _ => none

end Ron
end PatronGateway
