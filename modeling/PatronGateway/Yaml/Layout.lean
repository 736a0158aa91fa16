import PatronGateway.Yaml.Property
import PatronGateway.Yaml.Scalar

/-!
# The layout of YAML

From the columns of a text it follows where blocks begin and end.  A block begins with
its first entry or key, and ends before the first token further to the left.  Whether
something is a key is known only at the colon behind it, so the places where a key may
have begun are remembered, one for the block and one for every open bracket, and the
token for the key is put there afterwards.

Outside of brackets a key stands on one line, is at most 1024 characters long, and
begins where a line or an entry begins.
-/

namespace PatronGateway
namespace Yaml

/-- A place where a key may have begun: the number of tokens before it, its position, and
whether there has to be one. -/
structure KeyPlace where
  possible : Bool
  required : Bool
  tokens : Nat
  index : Nat
  line : Nat
  column : Nat
  deriving Repr

/-- No place for a key. -/
def KeyPlace.nowhere : KeyPlace :=
  ⟨false, false, 0, 0, 0, 0⟩

/-- The column of a block that goes on behind an inner one, and whether the inner one is a
block that has an end.  A step of one column that is no block keeps what belongs to a key
to the right of it. -/
structure Indent where
  column : Int
  closes : Bool
  deriving Repr

/-- Brackets that are open; in a sequence a mark may have told that a key follows. -/
inductive Bracket where
  | sequence (keyed : Bool)
  | mapping
  deriving DecidableEq, Repr

/-- How many brackets may be open. -/
def bracketLimit : Nat :=
  255

/-- A text that is being cut into tokens. -/
structure Layout where
  cursor : Cursor
  tokens : Array Token := #[]
  /-- Whether a key may begin here. -/
  keyAllowed : Bool := true
  /-- Places of keys, that of the innermost bracket first. -/
  places : List KeyPlace := [.nowhere]
  indent : Int := -1
  indents : List Indent := []
  brackets : List Bracket := []
  /-- Where a colon may follow a quoted or bracketed key without a blank behind it. -/
  adjacent : Option Nat := none

namespace Layout

/-- Whether a bracket is open. -/
def inFlow (s : Layout) : Bool :=
  !s.brackets.isEmpty

/-- Adds a token. -/
def push (s : Layout) (t : Token) : Layout :=
  { s with tokens := s.tokens.push t }

/-- Puts a token behind the first ones. -/
def insert (s : Layout) (position : Nat) (t : Token) : Layout :=
  { s with tokens := s.tokens.insertIdxIfInBounds position t }

/-- The text further on. -/
def goTo (s : Layout) (c : Cursor) : Layout :=
  { s with cursor := c }

/-- Allows or forbids that a key begins. -/
def allowKey (s : Layout) (allowed : Bool) : Layout :=
  { s with keyAllowed := allowed }

/-- Remembers this place if a key may begin here.  In a block that has begun in this
column there has to be one. -/
def markKey (s : Layout) : Layout :=
  if s.keyAllowed then
    let required := !s.inFlow && s.indent == s.cursor.column && s.indents.head?.any Indent.closes
    let c := s.cursor
    let place := ⟨true, required, s.tokens.size, c.index, c.line, c.column⟩
    { s with places := place :: s.places.tail }
  else s

/-- Forgets the innermost place of a key, unless there has to be one. -/
def dropKey? (s : Layout) : Option Layout :=
  match s.places with
  | p :: rest =>
    if p.possible && p.required then none
    else some { s with places := { p with possible := false } :: rest }
  | [] => some s

/-- Forgets the places of keys that are too far back, unless there has to be one. -/
def dropStale? (s : Layout) : Option Layout := do
  let places ← s.places.mapM fun p =>
    let stale := p.possible && !s.inFlow &&
      (p.line < s.cursor.line || p.index + 1024 < s.cursor.index)
    if stale then if p.required then none else some { p with possible := false } else some p
  return { s with places }

/-- Ends blocks to the right of a column. -/
def endBlocks (column : Int) : List Indent → Int → Array Token → List Indent × Int × Array Token
  | [], indent, ts => ([], indent, ts)
  | d :: rest, indent, ts =>
    if column < indent then
      endBlocks column rest d.column (if d.closes then ts.push .blockEnd else ts)
    else (d :: rest, indent, ts)

/-- Ends the blocks to the right of a column, unless a bracket is open. -/
def unroll (s : Layout) (column : Int) : Layout :=
  if s.inFlow then s
  else
    let (indents, indent, tokens) := endBlocks column s.indents s.indent s.tokens
    { s with indents, indent, tokens }

/-- Takes back steps of one column. -/
def takeBackSteps : List Indent → Int → List Indent × Int
  | [], indent => ([], indent)
  | d :: rest, indent => if d.closes then (d :: rest, indent) else takeBackSteps rest d.column

/-- Takes back steps of one column that are no blocks. -/
def unrollSteps (s : Layout) : Layout :=
  let (indents, indent) := takeBackSteps s.indents s.indent
  { s with indents, indent }

/-- Takes back one step of one column if what follows is a block at some column. -/
def takeBackStep (s : Layout) (column : Nat) : Layout :=
  match s.indents with
  | d :: rest =>
    if s.indent ≤ column ∧ d.closes = false then { s with indent := d.column, indents := rest }
    else s
  | [] => s

/-- Begins a block in a column to the right, unless a bracket is open; its token is put
behind the first ones. -/
def roll (s : Layout) (column position : Nat) (t : Token) : Layout :=
  if s.inFlow then s
  else
    let s := s.takeBackStep column
    if s.indent < column then
      { s.insert position t with indents := ⟨s.indent, true⟩ :: s.indents, indent := column }
    else s

/-- Steps to the right by one column behind a block. -/
def rollStep (s : Layout) : Layout :=
  if !s.inFlow && s.indents.head?.any Indent.closes then
    { s with indents := ⟨s.indent, false⟩ :: s.indents, indent := s.indent + 1 }
  else s

/-- Goes to the next token, over blanks, line breaks and remarks.  Tabs must not indent
anything in a block; the fuel bounds the number of steps. -/
def toToken? : Nat → Layout → Option Layout
  | 0, s => some s
  | fuel + 1, s =>
    match s.cursor.rest with
    | c :: _ =>
      if c = '\t' ∧ !s.indents.isEmpty ∧ s.cursor.fresh ∧ (s.cursor.column : Int) < s.indent then do
        let c ← s.cursor.toLineEnd?
        if endsLine c.rest then toToken? fuel (s.goTo c) else none
      else if isBlank c then toToken? fuel (s.goTo (s.cursor.skip 1))
      else if isBreak c then
        toToken? fuel ((s.goTo s.cursor.passBreak).allowKey (!s.inFlow || s.keyAllowed))
      else if c = '#' then toToken? fuel (s.goTo s.cursor.passLine)
      else some s
    | [] => some s

/-- Ends all blocks in front of something that stands by itself. -/
def alone? (s : Layout) : Option Layout :=
  ((s.unroll (-1)).dropKey?).map fun s => s.allowKey false

/-- Takes a directive. -/
def directive? (s : Layout) : Option Layout := do
  let s ← s.alone?
  let (t, c) ← Yaml.directive? s.cursor
  return (s.goTo c).push t

/-- Takes the mark of the beginning of a document. -/
def documentStart? (s : Layout) : Option Layout := do
  let s ← s.alone?
  return (s.goTo (s.cursor.pass 3)).push .documentStart

/-- Takes the mark of the end of a document; nothing but a remark may follow it. -/
def documentEnd? (s : Layout) : Option Layout := do
  let s ← s.alone?
  let c ← (s.cursor.pass 3).toLineEnd?
  if endsLine c.rest then return (s.goTo c).push .documentEnd else none

/-- Takes an opening bracket. -/
def openBracket? (s : Layout) (b : Bracket) (t : Token) : Option Layout := do
  let s := s.markKey.rollStep
  if bracketLimit ≤ s.brackets.length then none
  else
    let c ← (s.cursor.pass 1).toLineEnd?
    return { s.push t with
      cursor := c, keyAllowed := true, brackets := b :: s.brackets,
      places := .nowhere :: s.places }

/-- Takes a closing bracket. -/
def closeBracket? (s : Layout) (t : Token) : Option Layout := do
  let s ← s.dropKey?
  let s := if s.inFlow then { s with brackets := s.brackets.tail, places := s.places.tail } else s
  let c ← (s.cursor.pass 1).toLineEnd?
  return { s.push t with
    cursor := c, keyAllowed := false, adjacent := if s.inFlow then some c.index else s.adjacent }

/-- Takes a comma between brackets. -/
def flowEntry? (s : Layout) : Option Layout := do
  let s ← s.dropKey?
  let c ← (s.cursor.pass 1).toLineEnd?
  let brackets := match s.brackets with
    | .sequence _ :: rest => .sequence false :: rest
    | brackets => brackets
  return { s.push .flowEntry with cursor := c, keyAllowed := true, brackets }

/-- Takes the mark of an entry of a block. -/
def blockEntry? (s : Layout) : Option Layout := do
  if s.inFlow || !s.keyAllowed then none
  else
    let column := s.cursor.column
    let s := (s.goTo (s.cursor.pass 1)).roll column s.tokens.size .blockSequence
    let (gap, c) ← s.cursor.passGap? true
    if gap.tabs && c.rest.head? == some '-' && endsWord (c.rest.drop 1) then none
    else
      let (_, c) ← c.passGap? false
      let s := s.goTo c
      let s := if c.rest.head?.any fun d => isBreak d || isFlowMark d then s.rollStep else s
      let s ← s.dropKey?
      return (s.allowKey true).push .blockEntry

/-- Goes over spaces, line breaks and remarks behind the mark of a key; there has to be a
space or a line break.  The fuel bounds the number of steps. -/
def passSpace? : Nat → Bool → Layout → Option Layout
  | 0, found, s => if found then some s else none
  | fuel + 1, found, s =>
    match s.cursor.rest with
    | c :: _ =>
      if c = ' ' then passSpace? fuel true (s.goTo (s.cursor.skip 1))
      else if isBreak c then
        passSpace? fuel true
          ((s.goTo s.cursor.passBreak).allowKey (!s.inFlow || s.keyAllowed))
      else if c = '#' then passSpace? fuel found (s.goTo s.cursor.passLine)
      else if found then some s else none
    | [] => if found then some s else none

/-- Takes the mark of a key. -/
def key? (s : Layout) : Option Layout := do
  if !s.inFlow && !s.keyAllowed then none
  else
    let s := s.roll s.cursor.column s.tokens.size .blockMapping
    let s ← s.dropKey?
    let brackets := match s.brackets with
      | .sequence _ :: rest => .sequence true :: rest
      | brackets => brackets
    let s := { s with brackets, keyAllowed := !s.inFlow, cursor := s.cursor.pass 1 }
    let s ← passSpace? (s.cursor.rest.length + 1) false s
    if s.cursor.rest.head? = some '\t' then none else return s.push .key

/-- Puts the tokens of a key at the place where it began, in front of its colon.  Without a
mark of its own a key in a sequence in brackets stands on the line of its colon. -/
def keyAt? (s : Layout) (p : KeyPlace) (line : Nat) : Option Layout :=
  if s.brackets.head? = some (.sequence false) ∧ p.line < line then none
  else
    let s := ((s.insert p.tokens .key).roll p.column p.tokens .blockMapping).rollStep
    some { s with
      places := { p with possible := false } :: s.places.tail, keyAllowed := false }

/-- Begins a value whose key has a mark of its own or is empty. -/
def bareValue? (s : Layout) (column : Nat) : Option Layout :=
  if s.inFlow then some (s.allowKey false)
  else if s.keyAllowed then
    some ((s.roll column s.tokens.size .blockMapping).rollStep.allowKey true)
  else none

/-- Takes the colon in front of a value. -/
def value? (s : Layout) : Option Layout := do
  let start := s.cursor
  let c := start.pass 1
  let c ←
    if c.rest.head? = some '\t' then do
      let (gap, c) ← c.passGap? true
      if !gap.spaces && c.rest.head?.any isHandleChar then none else some c
    else some c
  let s := s.goTo c
  let s ← match s.places with
    | p :: _ => if p.possible then s.keyAt? p start.line else s.bareValue? start.column
    | [] => s.bareValue? start.column
  return s.push .value

/-- Takes an anchor or an alias. -/
def anchor? (s : Layout) (t : String → Token) : Option Layout := do
  let s := s.markKey.allowKey false
  let (name, c) ← anchorName? s.cursor
  return (s.goTo c).push (t name)

/-- Takes a tag. -/
def tag? (s : Layout) : Option Layout := do
  let s := s.markKey.allowKey false
  let (t, c) ← Yaml.tag? s.inFlow s.cursor
  return (s.goTo c).push t

/-- Takes a block of lines. -/
def block? (s : Layout) (literal : Bool) : Option Layout := do
  let s := (s.markKey.allowKey true).unrollSteps
  let (text, c) ← Yaml.block? literal s.indent (s.cursor.pass 1)
  return (s.goTo c).push (.scalar false (String.ofList text))

/-- Takes a quoted scalar, behind which a colon needs no blank. -/
def quoted? (s : Layout) (q : Quote) : Option Layout := do
  let s := s.markKey.allowKey false
  let (text, c) ← Yaml.quoted? q s.indent s.inFlow s.cursor
  let s ← (s.goTo c).toToken? (c.rest.length + 1)
  return { s with adjacent := some s.cursor.index }.push (.scalar false (String.ofList text))

/-- Takes a plain scalar; a key may begin behind it if it ends with its line. -/
def plain? (s : Layout) : Option Layout := do
  let s := (s.markKey.allowKey false).unrollSteps
  let (text, c) ← Yaml.plain? (s.indent + 1) s.inFlow s.cursor
  return ((s.goTo c).allowKey c.fresh).push (.scalar true (String.ofList text))

/-- Whether a colon here stands in front of a value. -/
def isValueMark (s : Layout) (behind : List Char) : Bool :=
  endsWord behind || (s.inFlow && (beginsFlow behind || s.adjacent == some s.cursor.index))

/-- Takes the token that begins with a character. -/
def token? (s : Layout) (c : Char) (behind : List Char) : Option Layout :=
  if c = '[' then s.openBracket? (.sequence false) .flowSequence
  else if c = '\x7b' then s.openBracket? .mapping .flowMapping
  else if c = ']' then s.closeBracket? .flowSequenceEnd
  else if c = '\x7d' then s.closeBracket? .flowMappingEnd
  else if c = ',' then s.flowEntry?
  else if c = '-' ∧ endsWord behind then s.blockEntry?
  else if c = '?' ∧ endsWord behind then s.key?
  else if c = ':' ∧ s.isValueMark behind then s.value?
  else if c = '*' then s.anchor? .alias
  else if c = '&' then s.anchor? .anchor
  else if c = '!' then s.tag?
  else if c = '|' ∧ !s.inFlow then s.block? true
  else if c = '>' ∧ !s.inFlow then s.block? false
  else if c = '\x27' then s.quoted? .single
  else if c = '"' then s.quoted? .double
  else if c ∈ ['%', '@', '\x60'] then none
  else s.plain?

/-- Ends the text: no key may be missing, and all blocks end. -/
def finish? (s : Layout) : Option Layout :=
  if s.places.any fun p => p.possible && p.required then none
  else some (s.unroll (-1))

/-- Takes tokens up to the end of the text; the fuel bounds their number. -/
def run? : Nat → Layout → Option Layout
  | 0, _ => none
  | fuel + 1, s => do
    let s ← s.toToken? (s.cursor.rest.length + 1)
    let s ← s.dropStale?
    let s := s.unroll s.cursor.column
    let cs := s.cursor.rest
    match cs with
    | [] => s.finish?
    | c :: behind =>
      if s.cursor.column = 0 ∧ c = '%' then run? fuel (← s.directive?)
      else if s.cursor.column = 0 ∧ beginsMark '-' cs then run? fuel (← s.documentStart?)
      else if s.cursor.column = 0 ∧ beginsMark '.' cs then run? fuel (← s.documentEnd?)
      else if (s.cursor.column : Int) < s.indent then none
      else run? fuel (← s.token? c behind)

end Layout

/-- The tokens of a text. -/
def tokens? (text : String) : Option (List Token) :=
  let c := Cursor.ofText text
  (Layout.run? (c.rest.length + 1) { cursor := c }).map fun s => s.tokens.toList

end Yaml
end PatronGateway
