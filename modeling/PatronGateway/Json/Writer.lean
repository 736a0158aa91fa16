import PatronGateway.Json.Document

/-!
# Writing JSON

Documents are written without blanks.  In strings the quote, the backslash and
the control characters are escaped, the latter by their short escape where the
grammar has one; every other character stands for itself.
-/

namespace PatronGateway
namespace Json

open Text (Digit)

/-- The hexadecimal digit of a number below sixteen. -/
def hexChar (n : Nat) : Char :=
  if n < 10 then Char.ofNat (48 + n) else Char.ofNat (87 + n)

/-- A character as it is written inside a string. -/
def escapeChar (c : Char) : List Char :=
  match c with
  | '"' => ['\\', '"']
  | '\\' => ['\\', '\\']
  | '\x08' => ['\\', 'b']
  | '\t' => ['\\', 't']
  | '\n' => ['\\', 'n']
  | '\x0c' => ['\\', 'f']
  | '\r' => ['\\', 'r']
  | c =>
    if c.toNat < 0x20 then
      ['\\', 'u', '0', '0', hexChar (c.toNat / 16), hexChar (c.toNat % 16)]
    else
      [c]

/-- A string with its quotes. -/
def quoted (s : String) : List Char :=
  '"' :: s.toList.flatMap escapeChar ++ ['"']

/-- A string with its quotes; one without a text becomes half a surrogate pair. -/
def quoted? : Option String → List Char
  | some s => quoted s
  | none => ['"', '\\', 'u', 'd', '8', '0', '0', '"']

/-- A number with its sign, fraction and exponent; an exponent always shows its sign. -/
def Numeral.render (n : Numeral) : List Char :=
  let sign := if n.negative then ['-'] else []
  let fraction := match n.fraction with
    | some ds => '.' :: ds.map Digit.toChar
    | none => []
  let exponent := match n.exponent with
    | some e => 'e' :: (if e.negative then '-' else '+') :: e.digits.map Digit.toChar
    | none => []
  sign ++ n.whole.map Digit.toChar ++ fraction ++ exponent

namespace Document

mutual

/-- The characters of a document. -/
def render : Document → List Char
  | .null => ['n', 'u', 'l', 'l']
  | .bool true => ['t', 'r', 'u', 'e']
  | .bool false => ['f', 'a', 'l', 's', 'e']
  | .number n => n.render
  | .text s => quoted? s
  | .array items => '[' :: renderItems items ++ [']']
  | .object members => '\x7b' :: renderMembers members ++ ['\x7d']

/-- The items of an array with commas between them. -/
def renderItems : List Document → List Char
  | [] => []
  | [d] => d.render
  | d :: rest => d.render ++ ',' :: renderItems rest

/-- The members of an object with commas between them. -/
def renderMembers : List (Option String × Document) → List Char
  | [] => []
  | [m] => quoted? m.1 ++ ':' :: m.2.render
  | m :: rest => quoted? m.1 ++ ':' :: m.2.render ++ ',' :: renderMembers rest

end

/-- The text of a document. -/
def write (d : Document) : String :=
  String.ofList d.render

end Document
end Json
end PatronGateway
