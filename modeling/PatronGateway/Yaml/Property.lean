import PatronGateway.Text.Hex
import PatronGateway.Yaml.Cursor
import PatronGateway.Yaml.Token

/-!
# Anchors, tags and directives of YAML

What stands in front of a node: an anchor, by which an alias refers to it, and a tag,
which says what it is; and what stands in front of a document.
-/

namespace PatronGateway
namespace Yaml

/-- A character of a handle of tags. -/
def isHandleChar (c : Char) : Bool :=
  (c.toNat < 0x80 && c.isAlphanum) || c == '_' || c == '-'

/-- A character of a tag that is written in full. -/
def isUriChar (c : Char) : Bool :=
  (isHandleChar c && c != '_') || c ∈ "#;/?:@&=+$,_.!~*\x27()[]%".toList

/-- A character of a tag that is written with a handle. -/
def isTagChar (c : Char) : Bool :=
  isUriChar c && !isFlowMark c && c != '!'

/-- A character of the name of an anchor. -/
def isAnchorChar (c : Char) : Bool :=
  !isBlank c && !isBreak c && !isFlowMark c && c.toNat != 0xFEFF

/-- The number of bytes of a character whose first byte is given. -/
def escapedWidth? (byte : Nat) : Option Nat :=
  if byte < 0x80 then some 1
  else if 0xC0 ≤ byte ∧ byte < 0xE0 then some 2
  else if 0xE0 ≤ byte ∧ byte < 0xF0 then some 3
  else if 0xF0 ≤ byte ∧ byte < 0xF8 then some 4
  else none

/-- Takes an escaped byte. -/
def escapedByte? : List Char → Option (Nat × List Char)
  | '%' :: a :: b :: rest => (Text.digitsIn? 16 [a, b]).map fun n => (n, rest)
  | _ => none

/-- Takes more bytes of a character; its code has all their bits. -/
def escapedMore? (code : Nat) : Nat → List Char → Option (Nat × List Char)
  | 0, cs => some (code, cs)
  | n + 1, cs => do
    let (byte, rest) ← escapedByte? cs
    if 0x80 ≤ byte ∧ byte < 0xC0 then escapedMore? (code * 256 + byte) n rest else none

/-- Takes an escaped character of a tag. -/
def escaped? (cs : List Char) : Option (Char × List Char) := do
  let (byte, rest) ← escapedByte? cs
  let (code, rest) ← escapedMore? byte ((← escapedWidth? byte) - 1) rest
  if code.isValidChar then return (Char.ofNat code, rest) else none

/-- Takes characters of a kind, escaped or not; the fuel bounds their number. -/
def tagText? (p : Char → Bool) : Nat → List Char → Option (List Char × List Char)
  | 0, _ => none
  | _, [] => some ([], [])
  | fuel + 1, c :: rest =>
    if !p c then some ([], c :: rest)
    else do
      let (d, rest) ← if c = '%' then escaped? (c :: rest) else some (c, rest)
      let (text, rest) ← tagText? p fuel rest
      return (d :: text, rest)

/-- Takes characters of a kind. -/
def taken? (p : Char → Bool) (c : Cursor) : Option (List Char × Cursor) :=
  (tagText? p (c.rest.length + 1) c.rest).map fun r =>
    (r.1, c.pass (c.rest.length - r.2.length))

/-- Takes the handle of a tag; with `closed` it must end in its mark. -/
def handle? (closed : Bool) (c : Cursor) : Option (List Char × Cursor) :=
  match c.rest with
  | '!' :: _ =>
    let (name, c) := (c.pass 1).passWhile isHandleChar
    match c.rest with
    | '!' :: _ => some ('!' :: name ++ ['!'], c.pass 1)
    | _ => if closed && !name.isEmpty then none else some ('!' :: name, c)
  | _ => none

/-- Takes a tag. -/
def tag? (inFlow : Bool) (start : Cursor) : Option (Token × Cursor) := do
  let (handle, suffix, c) ←
    if start.rest[1]? = some '<' then do
      let (text, c) ← taken? isUriChar (start.pass 2)
      if c.rest.head? = some '>' then some ([], text, c.pass 1) else none
    else do
      let (handle, c) ← handle? false start
      let (text, c) ← taken? isTagChar c
      if handle.length ≥ 2 ∧ handle.getLast? = some '!' then
        if text.isEmpty then none else some (handle, text, c)
      else
        let suffix := handle.drop 1 ++ text
        if suffix.isEmpty then some ([], ['!'], c) else some (['!'], suffix, c)
  if endsWord c.rest || (inFlow && beginsFlow c.rest) then
    return (.tag (String.ofList handle) (String.ofList suffix), c)
  else none

/-- Takes the name of an anchor or an alias behind its mark. -/
def anchorName? (start : Cursor) : Option (String × Cursor) :=
  let (name, c) := (start.pass 1).passWhile isAnchorChar
  if name.isEmpty then none else some (String.ofList name, c)

/-- Takes a number of at most nine digits. -/
def versionNumber? (c : Cursor) : Option Cursor :=
  let (digits, c) := c.passWhile Char.isDigit
  if digits.isEmpty || 9 < digits.length then none else some c

/-- Steps over blanks. -/
def skipBlanks (c : Cursor) : Cursor :=
  c.skip (c.rest.takeWhile isBlank).length

/-- Takes what a tag written with a handle begins with. -/
def tagLead? (c : Cursor) : Option (List Char × Cursor) :=
  match c.rest with
  | [] => none
  | d :: _ =>
    if d = '!' then
      (taken? isUriChar (c.pass 1)).map fun p => ('!' :: p.1, p.2)
    else if isTagChar d then taken? isUriChar c
    else none

/-- Takes a directive and the end of its line.  One that nobody knows says nothing. -/
def directive? (start : Cursor) : Option (Token × Cursor) := do
  let (name, c) := (start.pass 1).passWhile isHandleChar
  if name.isEmpty || !endsWord c.rest then none
  else
    let (token, c) ←
      match String.ofList name with
      | "YAML" => do
        let c ← versionNumber? (skipBlanks c)
        if c.rest.head? = some '.' then
          return (Token.version, ← versionNumber? (c.pass 1))
        else none
      | "TAG" => do
        let (handle, c) ← handle? true (skipBlanks c)
        let (lead, c) ← tagLead? (skipBlanks c)
        if endsWord c.rest then
          return (Token.tagDirective (String.ofList handle) (String.ofList lead), c)
        else none
      | _ => some (Token.tagDirective "" "", c.passLine)
    let c ← c.toLineEnd?
    if endsLine c.rest then return (token, c.passBreak) else none

end Yaml
end PatronGateway
