import PatronGateway.Text.Hex
import PatronGateway.Unicode.Name

/-!
# The lexical level of JSON5

Blanks, remarks, strings in either kind of quotes, and names without quotes.  Every
function takes something away from the front of a text and gives the rest, or `none`
where the text has no such thing.
-/

namespace PatronGateway
namespace Json5

/-- Whether a character ends a line. -/
def isLineEnd (c : Char) : Bool :=
  c == '\n' || c == '\r' || c.toNat == 0x2028 || c.toNat == 0x2029

/-- Whether a character separates tokens. -/
def isSpace (c : Char) : Bool :=
  let n := c.toNat
  isLineEnd c || n == 0x09 || n == 0x0B || n == 0x0C || n == 0x20 || n == 0xA0 || n == 0xFEFF ||
    n == 0x1680 || (0x2000 ≤ n && n ≤ 0x200A) || n == 0x202F || n == 0x205F || n == 0x3000

/-- What follows the end of a remark over several lines, if it has one. -/
def afterRemark? : List Char → Option (List Char)
  | '*' :: '/' :: rest => some rest
  | _ :: rest => afterRemark? rest
  | [] => none

/-- Drops blanks and remarks; the fuel bounds their number. -/
def skip : Nat → List Char → List Char
  | 0, cs => cs
  | fuel + 1, cs =>
    match cs.dropWhile isSpace with
    | '/' :: '/' :: rest => skip fuel (rest.dropWhile fun c => !isLineEnd c)
    | '/' :: '*' :: rest =>
      match afterRemark? rest with
      | some rest => skip fuel rest
      | none => '/' :: '*' :: rest
    | cs => cs

/-- Drops blanks and remarks. -/
def skipSpace (cs : List Char) : List Char :=
  skip (cs.length + 1) cs

/-- The unit of UTF-16 that four hexadecimal digits write. -/
def unit? : List Char → Option (Nat × List Char)
  | a :: b :: c :: d :: rest => (Text.digitsIn? 16 [a, b, c, d]).map fun n => (n, rest)
  | _ => none

/-- Takes a character that is written in units of UTF-16, behind the first `\u`. -/
def unitChar? (cs : List Char) : Option (Char × List Char) := do
  let (high, rest) ← unit? cs
  if 0xD800 ≤ high ∧ high < 0xDC00 then
    match rest with
    | '\\' :: 'u' :: rest => do
      let (low, rest) ← unit? rest
      if 0xDC00 ≤ low ∧ low < 0xE000 then
        return (Char.ofNat (0x10000 + (high - 0xD800) * 0x400 + (low - 0xDC00)), rest)
      else none
    | _ => none
  else if high.isValidChar then return (Char.ofNat high, rest)
  else none

/-- Takes what a backslash stands for together with what follows it; at the end of a
line it stands for nothing. -/
def escape? : List Char → Option (List Char × List Char)
  | '\r' :: '\n' :: rest => some ([], rest)
  | 'u' :: rest => (unitChar? rest).map fun p => ([p.1], p.2)
  | 'x' :: a :: b :: rest => (Text.digitsIn? 16 [a, b]).map fun n => ([Char.ofNat n], rest)
  | '0' :: rest => some (['\x00'], rest)
  | 'b' :: rest => some (['\x08'], rest)
  | 'f' :: rest => some (['\x0c'], rest)
  | 'n' :: rest => some (['\n'], rest)
  | 'r' :: rest => some (['\r'], rest)
  | 't' :: rest => some (['\t'], rest)
  | 'v' :: rest => some (['\x0b'], rest)
  | c :: rest =>
    if isLineEnd c then some ([], rest)
    else if c = 'x' ∨ c.isDigit then none
    else some ([c], rest)
  | [] => none

/-- Takes the rest of a string and its closing mark; the fuel bounds its length. -/
def stringBody? (mark : Char) : Nat → List Char → Option (List Char × List Char)
  | 0, _ => none
  | _, [] => none
  | fuel + 1, c :: rest =>
    if c = mark then some ([], rest)
    else if c = '\\' then do
      let (e, rest) ← escape? rest
      let (text, rest) ← stringBody? mark fuel rest
      return (e ++ text, rest)
    else if isLineEnd c then none
    else do
      let (text, rest) ← stringBody? mark fuel rest
      return (c :: text, rest)

/-- Takes a string. -/
def string? : List Char → Option (List Char × List Char)
  | c :: rest => if c = '"' ∨ c = '\x27' then stringBody? c (rest.length + 1) rest else none
  | [] => none

/-- Whether a name may begin with a character. -/
def isNameStart (c : Char) : Bool :=
  c == '$' || c == '_' || Unicode.isLetter c

/-- Whether a name may hold a character. -/
def isNamePart (c : Char) : Bool :=
  c == '$' || Unicode.isNamePart c || c.toNat == 0x200C || c.toNat == 0x200D

/-- Takes characters of a name as far as they go; the fuel bounds their number. -/
def nameParts? : Nat → List Char → Option (List Char × List Char)
  | 0, _ => none
  | _, [] => some ([], [])
  | fuel + 1, c :: rest =>
    match c, rest with
    | '\\', 'u' :: rest => do
      let (e, rest) ← unitChar? rest
      let (name, rest) ← nameParts? fuel rest
      return (e :: name, rest)
    | c, rest =>
      if isNamePart c then do
        let (name, rest) ← nameParts? fuel rest
        return (c :: name, rest)
      else some ([], c :: rest)

/-- Takes the name of a member, with or without quotes. -/
def name? (cs : List Char) : Option (List Char × List Char) :=
  match cs with
  | [] => none
  | c :: _ =>
    if c = '\\' ∨ isNameStart c then
      (nameParts? (cs.length + 1) cs).filter fun p => !p.1.isEmpty
    else string? cs

end Json5
end PatronGateway
