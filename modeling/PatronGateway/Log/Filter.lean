import PatronGateway.Decimal.Nearest
import PatronGateway.Log.Event
import PatronGateway.Log.Pattern
import PatronGateway.Text.Blank
import PatronGateway.Text.Digit
import PatronGateway.Text.Split
import PatronGateway.Unicode.Alphanumeric

/-!
# Filters

A filter is a list of directives such as `warn` or `patron_edge=info`, which set a
level for everything or for the parts whose names begin in some way.  In brackets a
directive may name a span of work and, in braces, a field: `[{cache}]=info`
is about the events that have this field.  What is said of a span, or of the value
of a field, is said of work in progress and of no event outside of it.

Of several directives for an event the most specific one counts, and where there is
none the event is not shown.
-/

namespace PatronGateway
namespace Log

/-- A condition on a field: that it is there, or that it has some value. -/
structure FieldCondition where
  name : String
  value : Option (List Char)
  deriving DecidableEq, Repr

/-- Whether a text says which value a field has: it is a number or a pattern. -/
def isFieldValue (cs : List Char) : Bool :=
  (Decimal.Double.read? cs).isSome || Pattern.isWellFormed cs

/-- Reads a condition such as `cache` or `capacity=7`. -/
def FieldCondition.read? (cs : List Char) : Option FieldCondition :=
  match Text.splitOn '=' cs with
  | name :: value :: _ =>
    if isFieldValue value then some ⟨String.ofList name, some value⟩ else none
  | _ => some ⟨String.ofList cs, none⟩

/-- A rule on what is shown. -/
structure Directive where
  source : Option (List Char)
  span : Option (List Char)
  field : Option FieldCondition
  level : Level
  deriving DecidableEq, Repr

namespace Directive

/-- The directive that sets a level for everything. -/
def everything (level : Level) : Directive :=
  ⟨none, none, none, level⟩

/-- Whether a directive is about events by themselves, not about work in progress. -/
def isForEvents (d : Directive) : Bool :=
  d.span.isNone && d.field.all fun f => f.value.isNone

/-- Whether a directive is about an event. -/
def concerns (d : Directive) (e : Event) : Bool :=
  d.isForEvents && d.source.all (·.isPrefixOf e.source.toList) &&
    d.field.all fun f => e.fieldNames.contains f.name

/-- How specific a directive is as to its source: by the length of the name, any
name above none. -/
def reach (d : Directive) : Nat :=
  (d.source.map fun s => s.length + 1).getD 0

/-- How specific a directive is as to a field: any field above none, and of two
fields the later name. -/
def fieldKey (d : Directive) : List String :=
  (d.field.map FieldCondition.name).toList

/-- Whether a directive is more specific than another that is about the same event. -/
def outranks (d other : Directive) : Bool :=
  other.reach < d.reach || (other.reach == d.reach && other.fieldKey < d.fieldKey)

end Directive

/-- The level that a digit stands for: more is shown the higher it is. -/
def Level.ofVerbosity? : Nat → Option Level
  | 0 => some .off
  | 1 => some .error
  | 2 => some .warn
  | 3 => some .info
  | 4 => some .debug
  | 5 => some .trace
  | _ => none

/-- The level that a text names, as a word or as a number. -/
def Level.read? (cs : List Char) : Option Level :=
  match Text.natural? (match cs with | '+' :: rest => rest | _ => cs) with
  | some n => Level.ofVerbosity? n
  | none => Level.ofName? (String.ofList cs)

/-- Where in a directive the reader is, with the position at which a part began. -/
inductive Place where
  | start
  | word (since : Nat)
  | span (since : Nat)
  | field (since : Nat)
  | fieldsEnd
  | sourceEnd
  | level (since : Nat)
  deriving DecidableEq, Repr

/-- What is known of a directive while it is read. -/
structure Draft where
  place : Place := .start
  source : Option (List Char) := none
  span : Option (List Char) := none
  field : Option FieldCondition := none

/-- What stands behind so many bytes of a text; none within a character. -/
def behind? : Nat → List Char → Option (List Char)
  | 0, cs => some cs
  | _ + 1, [] => none
  | n + 1, c :: rest => if c.utf8Size ≤ n + 1 then behind? (n + 1 - c.utf8Size) rest else none

/-- The first bytes of a text, as far as they are whole characters. -/
def ahead? : Nat → List Char → Option (List Char)
  | 0, _ => some []
  | _ + 1, [] => none
  | n + 1, c :: rest =>
    if c.utf8Size ≤ n + 1 then (ahead? (n + 1 - c.utf8Size) rest).map (c :: ·) else none

/-- The part of a text between two positions. -/
def between? (text : List Char) (start stop : Nat) : Option (List Char) :=
  (behind? start text).bind (ahead? (stop - start))

/-- Whether a character may begin a directive that begins with a name or a level. -/
def isWordStart (c : Char) : Bool :=
  c ∈ ['-', ':', '_'] || Unicode.isAlphanumeric c

namespace Draft

/-- Takes one more character, the one at a position.  The parts are cut out of the
text as it was given, blanks around it included, while positions do not count the
blanks in front. -/
def feed? (text : List Char) (d : Draft) (i : Nat) (c : Char) : Option Draft :=
  match d.place with
  | .start =>
    if c = '[' then some { d with place := .span (i + 1) }
    else if isWordStart c then some { d with place := .word i }
    else none
  | .word since =>
    if c = '=' ∨ c = '[' then do
      let source ← between? text since i
      return { d with
        source := some source, place := if c = '=' then .level (i + 1) else .span (i + 1) }
    else some d
  | .span since =>
    if c = ']' then do
      return { d with span := some (← between? text since i), place := .sourceEnd }
    else if c = '\x7b' then do
      let name ← between? text since i
      return { d with
        span := if name.isEmpty then none else some name, place := .field (i + 1) }
    else some d
  | .field since =>
    if c = '\x7d' then do
      let field ← between? text since i
      if field.isEmpty then none
      else return { d with field := some (← FieldCondition.read? field), place := .fieldsEnd }
    else some d
  | .fieldsEnd => if c = ']' then some { d with place := .sourceEnd } else none
  | .sourceEnd => if c = '=' then some { d with place := .level (i + 1) } else none
  | .level _ => some d

/-- Takes the characters from a position on. -/
def feedAll? (text : List Char) (d : Draft) (i : Nat) : List Char → Option Draft
  | [] => some d
  | c :: rest => do feedAll? text (← d.feed? text i c) (i + c.utf8Size) rest

/-- The directive that has been read, at its end.  A word alone is a level or else a
source, and where no level is given everything is shown. -/
def finish? (text : List Char) (d : Draft) : Option Directive :=
  match d.place with
  | .word since => do
    let word ← behind? since text
    match Level.read? word with
    | some l => return .everything l
    | none => return ⟨some word, none, none, .trace⟩
  | .level since => do
    let level ← behind? since text
    let l ← if level.isEmpty then some .trace else Level.read? level
    return ⟨d.source, d.span, d.field, l⟩
  | .sourceEnd => some ⟨d.source, d.span, d.field, .trace⟩
  | .start | .span _ | .field _ | .fieldsEnd => none

end Draft

/-- Reads a directive. -/
def Directive.read? (text : List Char) : Option Directive := do
  let d ← Draft.feedAll? text {} 0 (Text.trimRight (Text.trimLeft text))
  d.finish? text

/-- What is shown. -/
structure Filter where
  directives : List Directive
  deriving DecidableEq, Repr

namespace Filter

/-- The filter that shows everything from a level on. -/
def ofLevel (l : Level) : Filter :=
  ⟨[.everything l]⟩

/-- Reads a filter, directives with commas between them; an empty text shows errors
alone. -/
def read? (text : String) : Option Filter :=
  let parts := (Text.splitOn ',' text.toList).filter fun p => !p.isEmpty
  if parts.isEmpty then some (ofLevel .error)
  else (parts.mapM Directive.read?).map fun ds => ⟨ds⟩

/-- The directive that counts for an event: the most specific, and of two equally
specific ones the later. -/
def directiveFor? (f : Filter) (e : Event) : Option Directive :=
  (f.directives.filter (Directive.concerns · e)).foldl (fun best d =>
    match best with
    | some b => if b.outranks d then some b else some d
    | none => some d) none

/-- Whether an event is shown. -/
def shows (f : Filter) (e : Event) : Bool :=
  match f.directiveFor? e with
  | some d => d.level.shows e.level
  | none => false

end Filter
end Log
end PatronGateway
