import PatronGateway.Config.Tree
import PatronGateway.Text.Blank
import PatronGateway.Text.Hex

/-!
# Reading INI files

An INI file has lines `name=value` or `name:value`, under headers such as
`[section]`.  Lines that begin with `;` or `#` are remarks; a remark may not stand
anywhere else.  A backslash escapes the next character wherever a text is read, and a
value may begin with parts in quotes.

All values are texts.  A name that is given twice keeps its last value, and so does a
section: what stood under its earlier headers is forgotten.
-/

namespace PatronGateway
namespace Ini

open Config (Tree)

/-- The character that four hexadecimal digits name, the first of which may be a plus
sign. -/
def codeChar? (cs : List Char) : Option Char := do
  let digits := match cs with
    | '+' :: rest => rest
    | cs => cs
  let n ← Text.digitsIn? 16 digits
  if n.isValidChar then some (Char.ofNat n) else none

/-- What a character stands for behind a backslash; a line end there is left out. -/
def escaped (c : Char) : List Char :=
  if c = '0' then ['\x00']
  else if c = 'a' then ['\x07']
  else if c = 'b' then ['\x08']
  else if c = 't' then ['\t']
  else if c = 'r' then ['\r']
  else if c = 'n' then ['\n']
  else if c = '\n' then []
  else [c]

/-- Takes the text in front of the first character of a kind.  The end of the file may
take the place of this character if `orEnd` holds. -/
def takeUntil? (stop : Char → Bool) (orEnd : Bool) : List Char → Option (List Char × List Char)
  | [] => if orEnd then some ([], []) else none
  | ['\\'] => if orEnd then some (['\\'], []) else none
  | '\\' :: 'x' :: a :: b :: c :: d :: rest => do
    let e ← codeChar? [a, b, c, d]
    let (text, rest) ← takeUntil? stop orEnd rest
    return (e :: text, rest)
  | '\\' :: 'x' :: _ => none
  | '\\' :: c :: rest => do
    let (text, rest) ← takeUntil? stop orEnd rest
    return (escaped c ++ text, rest)
  | c :: rest =>
    if stop c then some ([], c :: rest)
    else do
      let (text, rest) ← takeUntil? stop orEnd rest
      return (c :: text, rest)

/-- Whether a character ends a line. -/
def isLineEnd (c : Char) : Bool :=
  c == '\n' || c == '\r'

/-- Takes what follows the quoted parts of a value that were read so far; the fuel
bounds the number of parts. -/
def valueParts? : Nat → List Char → List Char → Option (List Char × List Char)
  | 0, _, _ => none
  | _, seen, [] => some (seen, [])
  | fuel + 1, seen, c :: rest =>
    if c = '"' ∨ c = '\x27' then do
      let (text, rest) ← takeUntil? (· == c) false rest
      valueParts? fuel (seen ++ text) (rest.drop 1)
    else do
      let (text, rest) ← takeUntil? isLineEnd true (c :: rest)
      return (seen ++ Text.trimRight text, rest)

/-- Takes a value. -/
def value? (cs : List Char) : Option (List Char × List Char) :=
  let cs := cs.dropWhile fun c => Text.isBlankChar c && !isLineEnd c
  match cs with
  | '"' :: _ | '\x27' :: _ => valueParts? (cs.length + 1) [] cs
  | cs => (takeUntil? isLineEnd true cs).map fun p => (Text.trimRight (Text.trimLeft p.1), p.2)

/-- What has been read of a file: the values above the first header, and those under
each header, the last one first. -/
structure Draft where
  general : List (String × Tree) := []
  headed : List (String × List (String × Tree)) := []

namespace Draft

/-- Adds a header. -/
def openSection (d : Draft) (name : String) : Draft :=
  { d with headed := (name, []) :: d.headed }

/-- Gives a name a value under the last header. -/
def put (d : Draft) (name value : String) : Draft :=
  match d.headed with
  | [] => { d with general := Tree.setMember name (.text value) d.general }
  | s :: earlier =>
    { d with headed := (s.1, Tree.setMember name (.text value) s.2) :: earlier }

/-- The tree of a file that was read to its end. -/
def toTree (d : Draft) : Tree :=
  .table (d.headed.reverse.foldl (fun ms s => Tree.setMember s.1 (.table s.2) ms) d.general)

end Draft

/-- Drops blanks, and tells whether a line begins behind them if one did before. -/
def skipBlanks (fresh : Bool) : List Char → Bool × List Char
  | [] => (fresh, [])
  | c :: rest => if Text.isBlankChar c then skipBlanks (c == '\n') rest else (fresh, c :: rest)

/-- Reads to the end of a file; the fuel bounds the number of lines. -/
def lines? : Nat → Draft → Bool → List Char → Option Draft
  | 0, _, _, _ => none
  | fuel + 1, d, fresh, cs =>
    match skipBlanks fresh cs with
    | (_, []) => some d
    | (fresh, c :: rest) =>
      if c = ';' ∨ c = '#' then
        if fresh then lines? fuel d true ((rest.dropWhile (· != '\n')).drop 1) else none
      else if c = '[' then do
        let (name, rest) ← takeUntil? (· == ']') false rest
        let name := String.ofList (Text.trimRight (Text.trimLeft name))
        lines? fuel (d.openSection name) false (rest.drop 1)
      else do
        let (name, rest) ← takeUntil? (fun c => c == '=' || c == ':') false (c :: rest)
        let name := Text.trimRight (Text.trimLeft name)
        if name.isEmpty then none
        else
          let (value, rest) ← value? (rest.drop 1)
          lines? fuel (d.put (String.ofList name) (String.ofList value)) false rest

/-- The tree that a file writes. -/
def read? (text : String) : Option Tree :=
  let cs := text.toList
  (lines? (cs.length + 1) {} true cs).map Draft.toTree

end Ini
end PatronGateway
