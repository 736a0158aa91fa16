import PatronGateway.Text.Hex
import PatronGateway.Yaml.Cursor

/-!
# Scalars of YAML

A scalar is written in one of five ways: plain, in apostrophes, in quotes, or as a
block of lines that are kept or folded.  A scalar that goes on over several lines must
be indented more than the collection it stands in; its line breaks are folded: one
becomes a space, and of several all but the first are kept.
-/

namespace PatronGateway
namespace Yaml

/-- Blanks and line breaks that have been read within a scalar and do not belong to it
yet: the blanks, the last one first, whether there is a line break, and how many more
there are. -/
structure Pending where
  blanks : List Char := []
  broken : Bool := false
  more : Nat := 0

/-- What line breaks become within a scalar. -/
def Pending.folded (p : Pending) : List Char :=
  if p.broken && p.more == 0 then [' '] else List.replicate p.more '\n'

/-- What a letter stands for behind a backslash. -/
def escapes : List (Char × Char) :=
  [('0', '\x00'), ('a', '\x07'), ('b', '\x08'), ('t', '\t'), ('\t', '\t'), ('n', '\n'),
    ('v', '\x0b'), ('f', '\x0c'), ('r', '\r'), ('e', '\x1b'), (' ', ' '), ('"', '"'), ('/', '/'),
    ('\\', '\\'), ('N', '\u0085'), ('_', '\u00a0'), ('L', '\u2028'), ('P', '\u2029')]

/-- What a backslash at the front stands for, and how many characters this takes. -/
def escape? : List Char → Option (Char × Nat)
  | '\\' :: 'x' :: rest => (Text.hexScalar? 2 rest).map fun p => (p.1, 4)
  | '\\' :: 'u' :: rest => (Text.hexScalar? 4 rest).map fun p => (p.1, 6)
  | '\\' :: 'U' :: rest => (Text.hexScalar? 8 rest).map fun p => (p.1, 10)
  | '\\' :: c :: _ => (escapes.lookup c).map fun e => (e, 2)
  | _ => none

/-- How a scalar is quoted: with apostrophes or with quotes. -/
inductive Quote where
  | single
  | double
  deriving DecidableEq, Repr

/-- The mark of a way of quoting. -/
def Quote.mark : Quote → Char
  | single => '\x27'
  | double => '"'

/-- Takes a word of a quoted scalar, up to a blank, a line break or the closing mark; the
last character comes first.  Whether a backslash stands at the end of the line is told
too.  The fuel bounds the length of the word. -/
def quotedWord? (q : Quote) : Nat → List Char → Cursor → Option (List Char × Bool × Cursor)
  | 0, _, _ => none
  | fuel + 1, seen, c =>
    match q, c.rest with
    | _, [] => some (seen, false, c)
    | .single, '\x27' :: '\x27' :: _ => quotedWord? q fuel ('\x27' :: seen) (c.pass 2)
    | .double, '\\' :: d :: _ =>
      if isBreak d then some (seen, true, (c.pass 1).passBreak)
      else do
        let (e, n) ← escape? c.rest
        quotedWord? q fuel (e :: seen) (c.pass n)
    | _, d :: _ =>
      if isBlank d || isBreak d || d == q.mark then some (seen, false, c)
      else if q = .double ∧ d = '\\' then none
      else quotedWord? q fuel (d :: seen) (c.pass 1)

/-- Takes blanks and line breaks of a quoted scalar.  A tab must not take the place of
indentation. -/
def quotedBlanks? (indent : Int) (started : Bool) : Nat → Pending → Cursor → Option (Pending × Cursor)
  | 0, _, _ => none
  | fuel + 1, p, c =>
    match c.rest with
    | d :: _ =>
      let behindBreak := started || p.broken
      if isBlank d then
        if behindBreak then
          if d = '\t' ∧ (c.column : Int) < indent then none
          else quotedBlanks? indent started fuel p (c.skip 1)
        else quotedBlanks? indent started fuel { p with blanks := d :: p.blanks } (c.skip 1)
      else if isBreak d then
        if behindBreak then
          quotedBlanks? indent started fuel { p with more := p.more + 1 } c.passBreak
        else quotedBlanks? indent started fuel { broken := true } c.passBreak
      else some (p, c)
    | [] => some (p, c)

/-- Takes the rest of a quoted scalar and its closing mark. -/
def quotedBody? (q : Quote) (indent : Int) : Nat → List Char → Cursor → Option (List Char × Cursor)
  | 0, _, _ => none
  | fuel + 1, seen, c =>
    if c.rest.isEmpty || (c.column == 0 && beginsDocumentMark c.rest) then none
    else if (c.column : Int) < indent then none
    else do
      let (seen, started, c) ← quotedWord? q (c.rest.length + 1) seen c
      if c.rest.head? = some q.mark then return (seen.reverse, c.pass 1)
      else
        let (p, c) ← quotedBlanks? indent started (c.rest.length + 1) {} c
        let between := if started || p.broken then p.folded else p.blanks.reverse
        quotedBody? q indent fuel (between.reverse ++ seen) c

/-- Takes a quoted scalar; what follows on its line must be a part of the syntax. -/
def quoted? (q : Quote) (indent : Int) (inFlow : Bool) (start : Cursor) :
    Option (List Char × Cursor) := do
  let (text, c) ← quotedBody? q indent (start.rest.length + 1) [] (start.pass 1)
  let c ← c.toLineEnd?
  match c.rest with
  | [] => return (text, c)
  | d :: _ =>
    if isBreak d || (inFlow && d ∈ [',', '\x7d', ']', ':']) || (d == ':' && start.line == c.line)
    then return (text, c)
    else none

/-- Whether a plain scalar may go on with the characters that follow. -/
def goesOnPlain (inFlow : Bool) (cs : List Char) : Bool :=
  match cs with
  | [] => false
  | ':' :: rest => !(endsWord rest || (inFlow && beginsFlow rest))
  | c :: _ => !(isBlank c || isBreak c || (inFlow && isFlowMark c))

/-- The number of characters by which a plain scalar goes on. -/
def plainLength (inFlow : Bool) : List Char → Nat
  | [] => 0
  | c :: rest => if goesOnPlain inFlow (c :: rest) then plainLength inFlow rest + 1 else 0

/-- Takes blanks and line breaks of a plain scalar.  Tabs may take the place of
indentation on empty lines alone. -/
def plainBlanks? (indent : Int) : Nat → Pending → Cursor → Option (Pending × Cursor)
  | 0, _, _ => none
  | fuel + 1, p, c =>
    match c.rest with
    | d :: _ =>
      if isBlank d then
        if !c.fresh then plainBlanks? indent fuel { p with blanks := d :: p.blanks } (c.skip 1)
        else if (c.column : Int) < indent ∧ d = '\t' then do
          let c ← c.toLineEnd?
          if endsLine c.rest then plainBlanks? indent fuel p c else none
        else plainBlanks? indent fuel p (c.skip 1)
      else if isBreak d then
        if c.fresh then plainBlanks? indent fuel { p with more := p.more + 1 } c.passBreak
        else plainBlanks? indent fuel { p with blanks := [], broken := true } c.passBreak
      else some (p, c)
    | [] => some (p, c)

/-- Takes the rest of a plain scalar; `indent` is the least column at which it goes on
outside of brackets. -/
def plainBody? (indent : Int) (inFlow : Bool) :
    Nat → List Char → Pending → Cursor → Option (List Char × Cursor)
  | 0, _, _, _ => none
  | fuel + 1, seen, p, c =>
    if (c.column == 0 && beginsDocumentMark c.rest) || c.rest.head? == some '#' then
      some (seen.reverse, c)
    else if inFlow && c.rest.head? == some '-' && beginsFlow (c.rest.drop 1) then none
    else
      let n := plainLength inFlow c.rest
      let (seen, p, c) :=
        if n = 0 then (seen, p, c)
        else
          let between := if c.fresh then p.folded else p.blanks.reverse
          ((c.rest.take n).reverse ++ between.reverse ++ seen,
            { p with
              blanks := if c.fresh then p.blanks else [],
              broken := p.broken && !c.fresh,
              more := if c.fresh then 0 else p.more },
            c.pass n)
      match c.rest with
      | d :: _ =>
        if isBlank d || isBreak d then do
          let (p, c) ← plainBlanks? indent (c.rest.length + 1) p c
          if !inFlow && (c.column : Int) < indent then return (seen.reverse, c)
          else plainBody? indent inFlow fuel seen p c
        else some (seen.reverse, c)
      | [] => some (seen.reverse, c)

/-- Takes a plain scalar, which has to be indented by some columns if it stands in
brackets. -/
def plain? (indent : Int) (inFlow : Bool) (start : Cursor) : Option (List Char × Cursor) :=
  if inFlow && (start.column : Int) < indent then none
  else
    (plainBody? indent inFlow (start.rest.length + 1) [] {} start).filter fun p => !p.1.isEmpty

/-- What becomes of the line breaks at the end of a block of lines. -/
inductive Chomping where
  | strip
  | clip
  | keep
  deriving DecidableEq, Repr

/-- What stands behind the mark of a block: what becomes of its end, and by how much it is
indented more than the collection around it, if that is said. -/
structure BlockHeader where
  chomping : Chomping
  deeper : Option Nat

/-- Takes a sign for what becomes of the end of a block. -/
def chomping? : List Char → Option (Chomping × List Char)
  | '+' :: rest => some (.keep, rest)
  | '-' :: rest => some (.strip, rest)
  | _ => none

/-- Takes the digit of an indentation; zero is an error. -/
def deeper? (cs : List Char) : Option (Option Nat × List Char) :=
  match cs with
  | '0' :: _ => none
  | c :: rest => if c.isDigit then some (some (c.toNat - 48), rest) else some (none, cs)
  | [] => some (none, [])

/-- Takes what stands behind the mark of a block. -/
def blockHeader? (cs : List Char) : Option (BlockHeader × List Char) := do
  match chomping? cs with
  | some (chomping, rest) =>
    let (deeper, rest) ← deeper? rest
    return (⟨chomping, deeper⟩, rest)
  | none =>
    let (deeper, rest) ← deeper? cs
    match deeper, chomping? rest with
    | some _, some (chomping, rest) => return (⟨chomping, deeper⟩, rest)
    | _, _ => return (⟨.clip, deeper⟩, rest)

/-- Steps over empty lines and over the spaces that indent the first line which is not
empty, up to a column; the empty lines are counted. -/
def blockIndent (indent : Nat) : Nat → Nat → Cursor → Nat × Cursor
  | 0, breaks, c => (breaks, c)
  | fuel + 1, breaks, c =>
    let spaces := ((c.rest.takeWhile (· == ' ')).take (indent - c.column)).length
    let c := if spaces = 0 then c else c.skip spaces
    if !c.rest.isEmpty && endsLine c.rest then blockIndent indent fuel (breaks + 1) c.passBreak
    else (breaks, c)

/-- Steps over empty lines and over the spaces that indent the first line which is not
empty; the widest of these lines is told, and the empty ones are counted. -/
def blockFirstIndent : Nat → Nat → Nat → Cursor → Nat × Nat × Cursor
  | 0, widest, breaks, c => (widest, breaks, c)
  | fuel + 1, widest, breaks, c =>
    let spaces := (c.rest.takeWhile (· == ' ')).length
    let c := if spaces = 0 then c else c.skip spaces
    let widest := max widest c.column
    if !c.rest.isEmpty && endsLine c.rest then
      blockFirstIndent fuel widest (breaks + 1) c.passBreak
    else (widest, breaks, c)

/-- The lines of a block that have been read: their text, the last character first, whether
a line break follows it, how many empty lines follow that, and whether the last line begins
with a blank. -/
structure BlockLines where
  seen : List Char := []
  broken : Bool := false
  empty : Nat := 0
  blankLine : Bool := false

/-- Takes the lines of a block. -/
def blockLines (literal : Bool) (indent : Nat) : Nat → BlockLines → Cursor → BlockLines × Cursor
  | 0, b, c => (b, c)
  | fuel + 1, b, c =>
    if c.column ≠ indent || c.rest.isEmpty || (indent == 0 && beginsMark '.' c.rest) then (b, c)
    else
      let blank := c.rest.head?.any isBlank
      let between :=
        if !literal && b.broken && !b.blankLine && !blank then
          if b.empty = 0 then [' '] else List.replicate b.empty '\n'
        else List.replicate ((if b.broken then 1 else 0) + b.empty) '\n'
      let (text, c) := c.passWhile fun d => !isBreak d
      let seen := text.reverse ++ between ++ b.seen
      if c.rest.isEmpty then ({ seen, blankLine := blank }, c)
      else
        let (empty, c) := blockIndent indent (c.rest.length + 1) 0 c.passBreak
        blockLines literal indent fuel { seen, broken := true, empty, blankLine := blank } c

/-- Takes a block of lines, behind its mark; `indent` is the column of the collection
around it, or less than zero where there is none. -/
def block? (literal : Bool) (indent : Int) (start : Cursor) : Option (List Char × Cursor) := do
  let (h, rest) ← blockHeader? start.rest
  let c ← (start.pass (start.rest.length - rest.length)).toLineEnd?
  if !endsLine c.rest then none
  else
    let ended := c.passBreak
    if ended.rest.head? = some '\t' then none
    else
      let fuel := ended.rest.length + 1
      let (column, empty, c) := match h.deeper with
        | some n =>
          let column := n + indent.toNat
          (column, blockIndent column fuel 0 ended)
        | none =>
          let (widest, empty, c) := blockFirstIndent fuel 0 0 ended
          (max (max widest (indent + 1).toNat) (if 0 < indent then 1 else 0), empty, c)
      if c.rest.isEmpty then
        let text := match h.chomping with
          | .strip => []
          | .clip => if c.line = start.line then [] else ['\n']
          | .keep => if c.line = start.line then [] else List.replicate (max 1 empty) '\n'
        return (text, c)
      else if c.column < column ∧ indent < c.column then none
      else
        let (b, c) := blockLines literal column fuel { empty } c
        let last :=
          if h.chomping = .strip then []
          else
            (if b.broken then ['\n'] else []) ++
              if c.rest.isEmpty ∧ max column 1 ≤ c.column then ['\n'] else []
        let kept := if h.chomping = .keep then List.replicate b.empty '\n' else []
        return (b.seen.reverse ++ last ++ kept, c)

end Yaml
end PatronGateway
