import PatronGateway.Text.Hex
import PatronGateway.Text.Split
import PatronGateway.Unicode.Alphanumeric
import PatronGateway.Unicode.Name

/-!
# Patterns

A pattern is a regular expression without look-around, without references to what was
found before, and without the edges of words, so that it can be matched from left to
right by finitely many states.  Nothing here matches one; `Pattern.isWellFormed` says
which texts are patterns.

* What may be repeated is whatever stands before the mark of a repetition, but for a
  setting such as `(?i)`.
* A repetition that is counted would need a closing brace, and a text with one is never
  asked about.
-/

namespace PatronGateway
namespace Log
namespace Pattern

/-- What an escape stands for: a character, one of a class of characters, or a position in
the text. -/
inductive Piece where
  | char (c : Char)
  | oneOf
  | position
  deriving DecidableEq, Repr

/-- The letters for control characters. -/
def controlLetters : List (Char × Char) :=
  [('a', '\x07'), ('f', '\x0c'), ('t', '\t'), ('n', '\n'), ('r', '\r'), ('v', '\x0b')]

/-- What a backslash stands for together with what follows it. -/
def escape? : List Char → Option (Piece × List Char)
  | [] => none
  | c :: rest =>
    let coded (width : Nat) : Option (Piece × List Char) :=
      (Text.hexScalar? width rest).map fun p => (.char p.1, p.2)
    if c = 'x' then coded 2
    else if c = 'u' then coded 4
    else if c = 'U' then coded 8
    else if c = 'p' ∨ c = 'P' then
      match rest with
      | d :: rest => if d.toLower ∈ "clmnpsz".toList then some (.oneOf, rest) else none
      | [] => none
    else if c ∈ "dDsSwW".toList then some (.oneOf, rest)
    else if c ∈ "Az".toList then some (.position, rest)
    else if c.toNat < 0x80 ∧ !c.isAlphanum ∧ c ≠ '<' ∧ c ≠ '>' then some (.char c, rest)
    else (controlLetters.lookup c).map fun d => (.char d, rest)

/-- The names of classes in double brackets. -/
def classNames : List String :=
  ["alnum", "alpha", "ascii", "blank", "cntrl", "digit", "graph", "lower", "print", "punct",
    "space", "upper", "word", "xdigit"]

/-- What follows a class such as `[:alpha:]`, behind its opening bracket. -/
def namedClass? (cs : List Char) : Option (List Char) := do
  let rest ← Text.dropLead? [':'] cs
  let rest := (Text.dropLead? ['^'] rest).getD rest
  let name := rest.takeWhile (· != ':')
  if String.ofList name ∈ classNames then Text.dropLead? [':', ']'] (rest.drop name.length)
  else none

/-- What follows the beginning of a class, behind its opening bracket: hyphens, or else a
closing bracket, stand for themselves there. -/
def classBody (cs : List Char) : List Char :=
  let cs := (Text.dropLead? ['^'] cs).getD cs
  match cs.head? with
  | some '-' => cs.dropWhile (· == '-')
  | some ']' => cs.drop 1
  | _ => cs

/-- Takes a piece of a class. -/
def classPiece? : List Char → Option (Piece × List Char)
  | '\\' :: rest => escape? rest
  | c :: rest => some (.char c, rest)
  | [] => none

/-- Takes a piece of a class, or a range of characters. -/
def classRange? (cs : List Char) : Option (List Char) := do
  let (first, rest) ← classPiece? cs
  if rest.head? = some '-' ∧ rest[1]? ≠ some ']' ∧ rest[1]? ≠ some '-' then
    let (last, rest) ← classPiece? (rest.drop 1)
    match first, last with
    | .char c, .char d => if c ≤ d then some rest else none
    | _, _ => none
  else if first = .position then none
  else some rest

/-- What follows a class, some brackets deep; the fuel bounds the number of its pieces. -/
def afterClass? (depth : Nat) : Nat → List Char → Option (List Char)
  | 0, _ => none
  | fuel + 1, cs =>
    match cs, depth with
    | ']' :: rest, 0 => some rest
    | ']' :: rest, depth + 1 => afterClass? depth fuel rest
    | '[' :: rest, depth =>
      match namedClass? rest with
      | some rest => afterClass? depth fuel rest
      | none => afterClass? (depth + 1) fuel (classBody rest)
    | '&' :: '&' :: rest, depth => afterClass? depth fuel rest
    | '-' :: '-' :: rest, depth => afterClass? depth fuel rest
    | '~' :: '~' :: rest, depth => afterClass? depth fuel rest
    | cs, depth => (classRange? cs).bind (afterClass? depth fuel)

/-- The letters of settings. -/
def settingLetters : List Char :=
  "imsUuRx".toList

/-- Whether a text is a row of settings, those behind a hyphen being turned off. -/
def areSettings (cs : List Char) : Bool :=
  decide cs.Nodup && cs.all (fun c => c == '-' || settingLetters.contains c) &&
    cs.getLast? != some '-'

/-- Whether a text may name a group. -/
def isGroupName (cs : List Char) : Bool :=
  match cs with
  | c :: rest =>
    (c == '_' || Unicode.isLetter c) &&
      rest.all fun d => d ∈ ['_', '.', '[', ']'] || Unicode.isAlphanumeric d
  | [] => false

/-- What an opening parenthesis begins: a group, with or without a name, or a setting for
what follows. -/
inductive Opening where
  | group (name : Option (List Char))
  | setting

/-- Takes what follows an opening parenthesis and says what it begins. -/
def opening? (cs : List Char) : Option (Opening × List Char) :=
  match (Text.dropLead? "?P<".toList cs).orElse fun _ => Text.dropLead? "?<".toList cs, cs with
  | some rest, _ => do
    let (name, rest) ← Text.splitFirst? '>' rest
    if isGroupName name then return (.group (some name), rest) else none
  | none, '?' :: rest =>
    let settings := rest.takeWhile fun c => c != ':' && c != ')'
    if !areSettings settings then none
    else
      match rest.drop settings.length with
      | ':' :: rest => some (.group none, rest)
      | ')' :: rest => if settings.isEmpty then none else some (.setting, rest)
      | _ => none
  | none, cs => some (.group none, cs)

/-- What has been read of a pattern: the names of groups, how many groups are open, and
whether something can be repeated here. -/
structure Draft where
  names : List (List Char) := []
  depth : Nat := 0
  repeatable : Bool := false

/-- Reads a pattern to its end; the fuel bounds the number of its parts. -/
def readsToEnd : Nat → Draft → List Char → Bool
  | 0, _, _ => false
  | _, d, [] => d.depth == 0
  | fuel + 1, d, c :: rest =>
    if c = '(' then
      match opening? rest with
      | some (.group (some name), rest) =>
        !d.names.contains name && readsToEnd fuel ⟨name :: d.names, d.depth + 1, false⟩ rest
      | some (.group none, rest) => readsToEnd fuel ⟨d.names, d.depth + 1, false⟩ rest
      | some (.setting, rest) => readsToEnd fuel { d with repeatable := false } rest
      | none => false
    else if c = ')' then d.depth != 0 && readsToEnd fuel ⟨d.names, d.depth - 1, true⟩ rest
    else if c = '|' then readsToEnd fuel { d with repeatable := false } rest
    else if c = '[' then
      match afterClass? 0 (rest.length + 1) (classBody rest) with
      | some rest => readsToEnd fuel { d with repeatable := true } rest
      | none => false
    else if c ∈ ['?', '*', '+'] then
      d.repeatable && readsToEnd fuel d ((Text.dropLead? ['?'] rest).getD rest)
    else if c = '\x7b' then false
    else if c = '\\' then
      match escape? rest with
      | some (_, rest) => readsToEnd fuel { d with repeatable := true } rest
      | none => false
    else readsToEnd fuel { d with repeatable := true } rest

/-- Whether a text is a pattern. -/
def isWellFormed (cs : List Char) : Bool :=
  readsToEnd (cs.length + 1) {} cs

end Pattern
end Log
end PatronGateway
