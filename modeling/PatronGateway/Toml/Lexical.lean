import PatronGateway.Text.Digit
import PatronGateway.Text.Hex

/-!
# The lexical level of TOML

Blanks, line ends, comments, the four kinds of strings, and keys.  Every function
takes something away from the front of a text and gives the rest, or `none` where
the text has no such thing.

* A basic string stands between quotes and knows escapes.
* A literal string stands between apostrophes and knows none.
* Three quotes or apostrophes open a string of several lines, which drops a line
  end behind its opening and may end in up to two more of its marks.
-/

namespace PatronGateway
namespace Toml

/-- A character that separates tokens of a line. -/
def isBlank (c : Char) : Bool :=
  c == ' ' || c == '\t'

/-- Drops the blanks at the front. -/
def skipBlanks (cs : List Char) : List Char :=
  cs.dropWhile isBlank

/-- Takes a line end away. -/
def takeLineEnd? : List Char → Option (List Char)
  | '\n' :: rest => some rest
  | '\r' :: '\n' :: rest => some rest
  | _ => none

/-- A character that comments and strings may hold: no control character other
than the tab. -/
def isPlain (c : Char) : Bool :=
  c == '\t' || (0x20 ≤ c.toNat && c.toNat != 0x7F)

/-- Drops a comment, if there is one, up to the end of its line; a comment must
not hold control characters. -/
def skipComment : List Char → List Char
  | '#' :: rest => rest.dropWhile isPlain
  | cs => cs

/-- Drops blanks, comments and line ends; the fuel bounds the number of lines. -/
def skipLines : Nat → List Char → List Char
  | 0, cs => cs
  | fuel + 1, cs =>
    let rest := skipComment (skipBlanks cs)
    match takeLineEnd? rest with
    | some rest => skipLines fuel rest
    | none => rest

/-- Drops blanks, comments and line ends. -/
def skipSpace (cs : List Char) : List Char :=
  skipLines (cs.length + 1) cs

/-- The character that an escape without its backslash stands for. -/
def escape? : List Char → Option (Char × List Char)
  | 'b' :: rest => some ('\x08', rest)
  | 't' :: rest => some ('\t', rest)
  | 'n' :: rest => some ('\n', rest)
  | 'f' :: rest => some ('\x0c', rest)
  | 'r' :: rest => some ('\r', rest)
  | 'e' :: rest => some ('\x1b', rest)
  | '"' :: rest => some ('"', rest)
  | '\\' :: rest => some ('\\', rest)
  | 'x' :: rest => Text.hexScalar? 2 rest
  | 'u' :: rest => Text.hexScalar? 4 rest
  | 'U' :: rest => Text.hexScalar? 8 rest
  | _ => none

/-- Drops blanks and line ends. -/
def skipBlankLines : List Char → List Char
  | ' ' :: rest => skipBlankLines rest
  | '\t' :: rest => skipBlankLines rest
  | '\n' :: rest => skipBlankLines rest
  | '\r' :: '\n' :: rest => skipBlankLines rest
  | cs => cs

/-- Whether blanks alone stand before the end of the line. -/
def endsLine (cs : List Char) : Bool :=
  (takeLineEnd? (skipBlanks cs)).isSome

/-- What kind of string is read: its mark, whether a backslash escapes, and
whether it may have several lines. -/
structure StringKind where
  mark : Char
  escapes : Bool
  lines : Bool

/-- Reads a string behind its opening mark; the fuel bounds its length, and
`seen` holds the characters so far, the last one first. -/
def stringBody? (kind : StringKind) : Nat → List Char → List Char →
    Option (List Char × List Char)
  | 0, _, _ => none
  | _, _, [] => none
  | fuel + 1, seen, c :: rest =>
    if c = kind.mark then
      if kind.lines then
        let more := (rest.takeWhile (· == kind.mark)).length
        if more < 2 then stringBody? kind fuel (c :: seen) rest
        else if more ≤ 4 then
          some ((List.replicate (more - 2) c ++ seen).reverse, rest.drop more)
        else none
      else some (seen.reverse, rest)
    else if c = '\\' ∧ kind.escapes = true then
      if kind.lines && endsLine rest then
        stringBody? kind fuel seen (skipBlankLines rest)
      else
        match escape? rest with
        | some (e, rest) => stringBody? kind fuel (e :: seen) rest
        | none => none
    else if isPlain c then stringBody? kind fuel (c :: seen) rest
    else if kind.lines then
      match c, rest with
      | '\n', rest => stringBody? kind fuel (c :: seen) rest
      | '\r', '\n' :: rest => stringBody? kind fuel ('\n' :: c :: seen) rest
      | _, _ => none
    else none

/-- Reads a string of one line, of one of the two marks. -/
def lineString? : List Char → Option (List Char × List Char)
  | '"' :: rest => stringBody? ⟨'"', true, false⟩ (rest.length + 1) [] rest
  | '\x27' :: rest => stringBody? ⟨'\x27', false, false⟩ (rest.length + 1) [] rest
  | _ => none

/-- Drops a line end at the front, if there is one. -/
def dropLineEnd (cs : List Char) : List Char :=
  (takeLineEnd? cs).getD cs

/-- Reads a string of any kind. -/
def string? (cs : List Char) : Option (List Char × List Char) :=
  match cs with
  | '"' :: '"' :: '"' :: rest =>
    stringBody? ⟨'"', true, true⟩ (rest.length + 1) [] (dropLineEnd rest)
  | '\x27' :: '\x27' :: '\x27' :: rest =>
    stringBody? ⟨'\x27', false, true⟩ (rest.length + 1) [] (dropLineEnd rest)
  | cs => lineString? cs

/-- A character of a key without quotes. -/
def isKeyChar (c : Char) : Bool :=
  (c.toNat < 0x80 && c.isAlphanum) || c == '_' || c == '-'

/-- Takes one name of a key. -/
def keyPart? (cs : List Char) : Option (String × List Char) :=
  let bare := cs.takeWhile isKeyChar
  if bare.isEmpty then (lineString? cs).map fun p => (String.ofList p.1, p.2)
  else some (String.ofList bare, cs.dropWhile isKeyChar)

/-- A key: the names of the tables on the way, and the last name. -/
structure Key where
  way : List String
  name : String
  deriving DecidableEq, Repr

/-- Puts a name before a key. -/
def Key.under (name : String) (k : Key) : Key :=
  ⟨name :: k.way, k.name⟩

/-- Takes a key, names with points between them; the fuel bounds their number. -/
def keyParts? : Nat → List Char → Option (Key × List Char)
  | 0, _ => none
  | fuel + 1, cs => do
    let (name, rest) ← keyPart? (skipBlanks cs)
    match skipBlanks rest with
    | '.' :: rest => (keyParts? fuel rest).map fun p => (p.1.under name, p.2)
    | rest => some (⟨[], name⟩, rest)

/-- How deeply tables and arrays may be nested by a key or by brackets and braces. -/
def nestingLimit : Nat :=
  80

/-- Takes a key and the blanks around it. -/
def key? (cs : List Char) : Option (Key × List Char) :=
  (keyParts? (cs.length + 1) cs).filter fun p => p.1.way.length < nestingLimit

end Toml
end PatronGateway
