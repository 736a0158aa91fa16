import PatronGateway.Config.Environment
import PatronGateway.Text.Blank
import PatronGateway.Unicode.Alphanumeric

/-!
# Files of variables

A file of variables has lines such as `export NAME="some value"  # remark`.  A value
may be quoted in whole or in part, and in quotes it may go on over several lines.
Outside of apostrophes a backslash escapes the next character, and `$NAME` and
`${NAME}` stand for variables that are known already.

A variable that is set already keeps its value.  The lines before a faulty one
count, and what comes after it is not read.
-/

namespace PatronGateway
namespace Program

open Config (Variables)

/-- A line that cannot be read, and the position of the fault in it. -/
structure LineFault where
  text : String
  position : Nat
  deriving DecidableEq, Repr

/-- The wording of a fault. -/
def LineFault.message (f : LineFault) : String :=
  "Error parsing line: '" ++ f.text ++ "', error at line index: " ++ toString f.position

/-- The number of bytes that a text takes. -/
def byteCount (cs : List Char) : Nat :=
  cs.foldl (fun n c => n + c.utf8Size) 0

namespace EnvFile

/-- Where the end of a line finds the reader. -/
inductive Mood where
  | plain
  | blank
  | escape
  | quoted (mark : Char)
  | quotedEscape (mark : Char)
  deriving DecidableEq, Repr

/-- The mood after a character outside of quotes. -/
def Mood.afterPlain (c : Char) : Mood :=
  if c = '\\' then .escape
  else if c = '"' ∨ c.toNat = 0x27 then .quoted c
  else .plain

/-- The mood after one more character. -/
def Mood.next (m : Mood) (c : Char) : Mood :=
  match m with
  | plain =>
    if Text.isBlankChar c && c != '\n' && c != '\r' then .blank else .afterPlain c
  | blank => .afterPlain c
  | escape => .plain
  | quoted mark =>
    if c = '\\' then .quotedEscape mark else if c = mark then .plain else .quoted mark
  | quotedEscape mark => .quoted mark

/-- What the end of a line shows: that it ends in a remark, and what stands before
it, or the mood that it leaves. -/
inductive LineEnd where
  | remark (before : List Char)
  | open (mood : Mood)

/-- Runs through a line; a remark begins with `#` behind a blank. -/
def lineEnd (seen : List Char) (m : Mood) : List Char → LineEnd
  | [] => .open m
  | c :: rest =>
    if m = .blank ∧ c = '#' then .remark seen.reverse
    else lineEnd (c :: seen) (m.next c) rest

/-- Cuts a text into lines, each with its line end. -/
def physicalLines : List Char → List (List Char)
  | [] => []
  | c :: rest =>
    if c = '\n' then [c] :: physicalLines rest
    else
      match physicalLines rest with
      | [] => [[c]]
      | line :: more => (c :: line) :: more

/-- A line without its line end. -/
def withoutLineEnd (cs : List Char) : List Char :=
  match cs.reverse with
  | '\n' :: '\r' :: rest => rest.reverse
  | '\n' :: rest => rest.reverse
  | _ => cs

/-- Joins the lines of values that go on over several lines.  The last item is the
fault of a text that ends within a value. -/
def logicalLines (held : List Char) (m : Mood) :
    List (List Char) → List (Except LineFault (List Char))
  | [] =>
    if m = .plain then []
    else [.error ⟨String.ofList held, byteCount held⟩]
  | line :: rest =>
    let whole := held ++ line
    if (Text.trimLeft whole).head? = some '#' then .ok [] :: logicalLines [] .plain rest
    else
      match lineEnd [] m line with
      | .remark before => .ok (held ++ before) :: logicalLines [] .plain rest
      | .open .plain => .ok (withoutLineEnd whole) :: logicalLines [] .plain rest
      | .open m => logicalLines whole m rest

/-- How a value stands for a variable, while its name is read. -/
inductive Reference where
  | none
  | bare
  | braced
  deriving DecidableEq, Repr

/-- A value that is being read: what it is so far, the last character first, and
how the next character counts. -/
structure Reading where
  output : List Char := []
  strong : Bool := false
  weak : Bool := false
  escaped : Bool := false
  ended : Bool := false
  reference : Reference := .none
  name : List Char := []

/-- The value of a variable that is known already; an unknown one is empty. -/
def valueOf (known : Variables) (name : List Char) : List Char :=
  ((known.lookup (String.ofList name)).map String.toList).getD []

/-- Puts the value of the variable that was named. -/
def Reading.substitute (known : Variables) (r : Reading) : Reading :=
  { r with output := (valueOf known r.name.reverse).reverse ++ r.output, name := [] }

/-- Puts a character. -/
def Reading.put (r : Reading) (c : Char) : Reading :=
  { r with output := c :: r.output }

/-- Takes one more character of the name of a variable, which without braces is made
of letters and digits. -/
def Reading.feedName (known : Variables) (r : Reading) (c : Char) : Reading :=
  if Unicode.isAlphanumeric c then { r with name := c :: r.name }
  else
    match r.reference with
    | .braced =>
      if c.toNat = 0x7D then { r.substitute known with reference := .none }
      else { r with name := c :: r.name }
    | _ =>
      if c.toNat = 0x7B ∧ r.name = [] then { r with reference := .braced }
      else
        let r := r.substitute known
        if c = '$' then { r with reference := .bare }
        else { r with reference := .none }.put c

/-- Takes one more character outside of apostrophes and names. -/
def Reading.feedOpen (r : Reading) (c : Char) : Reading :=
  if c = '$' then { r with reference := .bare }
  else if c = '\\' then { r with escaped := true }
  else if r.weak then if c = '"' then { r with weak := false } else r.put c
  else if c.toNat = 0x27 then { r with strong := true }
  else if c = '"' then { r with weak := true }
  else if c = ' ' ∨ c = '\t' then { r with ended := true }
  else r.put c

/-- The character that an escape stands for. -/
def unescape? (c : Char) : Option Char :=
  if c = 'n' then some '\n'
  else if c ∈ ['\\', '"', '$', ' '] ∨ c.toNat = 0x27 then some c
  else none

/-- Takes one more character of a value, if it may stand there. -/
def Reading.feed? (known : Variables) (r : Reading) (c : Char) : Option Reading :=
  if r.ended then if c = ' ' ∨ c = '\t' then some r else none
  else if r.escaped then
    (unescape? c).map fun e => { r with escaped := false }.put e
  else if r.strong then
    some (if c.toNat = 0x27 then { r with strong := false } else r.put c)
  else if r.reference ≠ .none then some (r.feedName known c)
  else some (r.feedOpen c)

/-- Reads the characters of a value from a position on; a remark may follow it. -/
def valueFrom (known : Variables) (r : Reading) (position : Nat) :
    List Char → Except Nat Reading
  | [] => .ok r
  | c :: rest =>
    if r.ended ∧ c = '#' then .ok r
    else
      match r.feed? known c with
      | some r => valueFrom known r (position + 1) rest
      | none => .error position

/-- Reads a value. -/
def value (known : Variables) (cs : List Char) : Except LineFault String :=
  let text := String.ofList cs
  match valueFrom known {} 0 cs with
  | .error position => .error ⟨text, position⟩
  | .ok r =>
    if r.reference = .braced ∨ r.strong ∨ r.weak then .error ⟨text, byteCount cs - 1⟩
    else .ok (String.ofList (r.substitute known).output.reverse)

/-- A character of the name of a variable. -/
def isNameChar (c : Char) : Bool :=
  c.isAlphanum || c == '_' || c == '.'

/-- Takes a name from the front; it does not begin with a digit or a point. -/
def takeName? (cs : List Char) : Option (List Char × List Char) :=
  match cs with
  | c :: _ =>
    if c.isAlpha || c == '_' then some (cs.takeWhile isNameChar, cs.dropWhile isNameChar)
    else none
  | [] => none

/-- Takes a name and an equals sign from the front; the rest of the text is what is
left where the one or the other is missing. -/
def takeHead (cs : List Char) : Except (List Char) (List Char × List Char) :=
  match takeName? cs with
  | none => .error cs
  | some (name, rest) =>
    match Text.trimLeft rest with
    | '=' :: rest => .ok (name, rest)
    | rest => if name = "export".toList then takeExported rest else .error rest
where
  /-- Takes what follows the word `export`. -/
  takeExported (cs : List Char) : Except (List Char) (List Char × List Char) :=
    match takeName? cs with
    | none => .error cs
    | some (name, rest) =>
      match Text.trimLeft rest with
      | '=' :: rest => .ok (name, rest)
      | rest => .error rest

/-- Reads a line: a variable and its value, or nothing. -/
def line (known : Variables) (cs : List Char) : Except LineFault (Option (String × String)) :=
  let trimmed := Text.trimRight cs
  match Text.trimLeft trimmed with
  | [] | '#' :: _ => .ok none
  | head =>
    match takeHead head with
    | .error rest => .error ⟨String.ofList cs, byteCount trimmed - byteCount rest⟩
    | .ok (name, rest) =>
      match Text.trimLeft rest with
      | [] | '#' :: _ => .ok (some (String.ofList name, ""))
      | body => (value known body).map fun v => some (String.ofList name, v)

/-- Sets a variable that is not set already. -/
def setNew (known : Variables) (v : String × String) : Variables :=
  if (known.lookup v.1).isSome then known else known ++ [v]

/-- Reads lines up to the first fault. -/
def readLines (known : Variables) :
    List (Except LineFault (List Char)) → Variables × Option LineFault
  | [] => (known, none)
  | .error f :: _ => (known, some f)
  | .ok cs :: rest =>
    match line known cs with
    | .error f => (known, some f)
    | .ok none => readLines known rest
    | .ok (some v) => readLines (setNew known v) rest

/-- Adds the variables of a file to those that are set already. -/
def load (known : Variables) (text : String) : Variables × Option LineFault :=
  let cs := match text.toList with
    | c :: rest => if c.toNat = 0xFEFF then rest else c :: rest
    | [] => []
  readLines known (logicalLines [] .plain (physicalLines cs))

end EnvFile
end Program
end PatronGateway
