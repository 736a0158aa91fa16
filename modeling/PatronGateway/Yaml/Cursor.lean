/-!
# Positions in a YAML text

A cursor is a position in a text: what is left of it, and where this is.  The layout
of YAML depends on columns, and on whether blanks alone stand before a position on its
line, so every step of a cursor keeps account of both.
-/

namespace PatronGateway
namespace Yaml

/-- Whether a character separates words of a line. -/
def isBlank (c : Char) : Bool :=
  c == ' ' || c == '\t'

/-- Whether a character ends a line. -/
def isBreak (c : Char) : Bool :=
  c == '\n' || c == '\r'

/-- Whether a character belongs to the marks of collections in brackets. -/
def isFlowMark (c : Char) : Bool :=
  c ∈ [',', '[', ']', '\x7b', '\x7d']

/-- Whether a text is at the end of a line. -/
def endsLine (cs : List Char) : Bool :=
  cs.head?.all isBreak

/-- Whether a text is at the end of a word. -/
def endsWord (cs : List Char) : Bool :=
  cs.head?.all fun c => isBlank c || isBreak c

/-- Whether a text begins with the mark of collections in brackets. -/
def beginsFlow (cs : List Char) : Bool :=
  cs.head?.any isFlowMark

/-- Whether a text begins with three characters that stand by themselves. -/
def beginsMark (c : Char) (cs : List Char) : Bool :=
  [c, c, c].isPrefixOf cs && endsWord (cs.drop 3)

/-- Whether a text begins with the mark of the beginning or the end of a document. -/
def beginsDocumentMark (cs : List Char) : Bool :=
  beginsMark '-' cs || beginsMark '.' cs

/-- A position in a text.  It is `fresh` if blanks alone stand before it on its line. -/
structure Cursor where
  rest : List Char
  index : Nat := 0
  line : Nat := 0
  column : Nat := 0
  fresh : Bool := true
  deriving Repr

namespace Cursor

/-- The beginning of a text; a text ends at a character with the code zero. -/
def ofText (text : String) : Cursor :=
  { rest := text.toList.takeWhile (· != '\x00') }

/-- Steps over blanks. -/
def skip (c : Cursor) (n : Nat) : Cursor :=
  { c with rest := c.rest.drop n, index := c.index + n, column := c.column + n }

/-- Steps over characters of a line that are not blank. -/
def pass (c : Cursor) (n : Nat) : Cursor :=
  { c.skip n with fresh := false }

/-- Steps over the end of a line, if this is one. -/
def passBreak (c : Cursor) : Cursor :=
  match c.rest with
  | '\r' :: '\n' :: rest => ⟨rest, c.index + 2, c.line + 1, 0, true⟩
  | d :: rest => if isBreak d then ⟨rest, c.index + 1, c.line + 1, 0, true⟩ else c
  | [] => c

/-- Steps over the characters of a kind. -/
def passWhile (c : Cursor) (p : Char → Bool) : List Char × Cursor :=
  let taken := c.rest.takeWhile p
  (taken, if taken.isEmpty then c else c.pass taken.length)

/-- Steps over the rest of a line. -/
def passLine (c : Cursor) : Cursor :=
  (c.passWhile fun d => !isBreak d).2

/-- What was found between a token and the end of its line. -/
structure Gap where
  tabs : Bool
  spaces : Bool

/-- Steps over blanks, and over a remark, which has to have a blank in front.  Tabs count
as blanks where `tabs` holds. -/
def passGap? (c : Cursor) (tabs : Bool) : Option (Gap × Cursor) :=
  let blanks := c.rest.takeWhile fun d => d == ' ' || (tabs && d == '\t')
  let behind := if blanks.isEmpty then c else c.skip blanks.length
  let gap : Gap := ⟨blanks.contains '\t', blanks.contains ' '⟩
  match behind.rest with
  | '#' :: _ => if blanks.isEmpty then none else some (gap, behind.passLine)
  | _ => some (gap, behind)

/-- Steps over blanks and a remark. -/
def toLineEnd? (c : Cursor) : Option Cursor :=
  (c.passGap? true).map Prod.snd

end Cursor
end Yaml
end PatronGateway
