import PatronGateway.Yaml.Layout
import PatronGateway.Yaml.Node

/-!
# Documents of YAML

The grammar of tokens: how nodes are made of them, and a document of directives and a
node.  A text with settings holds at most one document, and one without any document says
nothing.
-/

namespace PatronGateway
namespace Yaml

open Config (Tree)

/-- Tokens that are being read, with what the names of anchors stand for: every anchor has
a number of its own, and its node is known once it is complete. -/
structure Composer where
  tokens : List Token
  directives : List (String × String) := []
  anchors : List (String × Nat) := []
  nodes : List (Nat × Node) := []
  count : Nat := 0

namespace Composer

/-- Leaves a token behind. -/
def skip (p : Composer) : Composer :=
  { p with tokens := p.tokens.tail }

/-- Whether one of some tokens comes next. -/
def sees (p : Composer) (ts : List Token) : Bool :=
  p.tokens.head?.any fun t => ts.contains t

/-- Gives an anchor a number. -/
def addAnchor (p : Composer) (name : String) : Composer :=
  { p with anchors := (name, p.count) :: p.anchors, count := p.count + 1 }

/-- Tells the node of an anchor. -/
def complete (p : Composer) (anchor : Option Nat) (n : Node) : Composer :=
  match anchor with
  | some id => { p with nodes := (id, n) :: p.nodes }
  | none => p

/-- The node that an alias stands for. -/
def aliased? (p : Composer) (name : String) : Option Node :=
  (p.anchors.lookup name).map fun id => (p.nodes.lookup id).getD .faulty

/-- Whether a handle stands between marks. -/
def isNamedHandle (handle : String) : Bool :=
  2 ≤ handle.length && handle.toList.head? == some '!' && handle.toList.getLast? == some '!'

/-- A tag as the directives resolve it; a named handle has to be declared. -/
def resolve? (p : Composer) (handle suffix : String) : Option Tag :=
  if handle = "!!" then some ⟨(p.directives.lookup "!!").getD coreLead, suffix⟩
  else if handle.isEmpty ∧ suffix = "!" then some ⟨(p.directives.lookup "").getD "", suffix⟩
  else
    match p.directives.lookup handle with
    | some lead => some ⟨lead, suffix⟩
    | none => if isNamedHandle handle then none else some ⟨handle, suffix⟩

/-- What stands in front of a node: the number of its anchor, and its tag. -/
structure Properties where
  anchor : Option Nat := none
  tag : Option Tag := none

/-- Takes an anchor, if there is one. -/
def anchor (p : Composer) (q : Properties) : Properties × Composer :=
  match p.tokens with
  | .anchor name :: _ => ({ q with anchor := some p.count }, p.skip.addAnchor name)
  | _ => (q, p)

/-- Takes a tag, if there is one. -/
def tag? (p : Composer) (q : Properties) : Option (Properties × Composer) :=
  match p.tokens with
  | .tag handle suffix :: _ => do
    let t ← p.resolve? handle suffix
    return ({ q with tag := some t }, p.skip)
  | _ => some (q, p)

/-- Takes what stands in front of a node, an anchor and a tag in either order. -/
def properties? (p : Composer) : Option (Properties × Composer) :=
  match p.tokens with
  | .anchor _ :: _ =>
    let (q, p) := p.anchor {}
    p.tag? q
  | .tag _ _ :: _ => do
    let (q, p) ← p.tag? {}
    return p.anchor q
  | _ => some ({}, p)

/-- Where a node stands: outside of brackets, and there as a part of a mapping or not, or
between brackets. -/
inductive Setting where
  | block (inMapping : Bool)
  | flow
  deriving DecidableEq, Repr

mutual

/-- Takes a node; the fuel bounds the number of steps. -/
def node? (setting : Setting) : Nat → Composer → Option (Node × Composer)
  | 0, _ => none
  | fuel + 1, p =>
    match p.tokens with
    | .alias name :: _ => (p.aliased? name).map fun n => (n, p.skip)
    | _ => do
      let (q, p) ← p.properties?
      let (n, p) ← content? setting q fuel p
      return (n, p.complete q.anchor n)

/-- Takes a node behind its anchor and its tag.  Behind either of them it may be missing. -/
def content? (setting : Setting) (q : Properties) : Nat → Composer → Option (Node × Composer)
  | 0, _ => none
  | fuel + 1, p =>
    let missing :=
      if q.anchor.isSome || q.tag.isSome then some (Node.ofScalar true q.tag "", p) else none
    match p.tokens with
    | .scalar plain text :: _ => some (.ofScalar plain q.tag text, p.skip)
    | .flowSequence :: _ =>
      (flowItems? true fuel [] p.skip).map fun r => (.sequence r.1, r.2)
    | .flowMapping :: _ => flowEntries? true fuel [] p.skip
    | .blockEntry :: _ =>
      if setting = .block true then
        (looseItems? fuel [] p).map fun r => (.sequence r.1, r.2)
      else missing
    | .blockSequence :: _ =>
      if setting = .flow then missing
      else (blockItems? fuel [] p.skip).map fun r => (.sequence r.1, r.2)
    | .blockMapping :: _ =>
      if setting = .flow then missing else blockEntries? fuel [] p.skip
    | _ => missing

/-- Takes a node, or nothing in front of some tokens. -/
def orNothing? (setting : Setting) (ts : List Token) : Nat → Composer → Option (Node × Composer)
  | 0, _ => none
  | fuel + 1, p => if p.sees ts then some (.nothing, p) else node? setting fuel p

/-- Takes the entries of a block sequence. -/
def blockItems? : Nat → List Node → Composer → Option (List Node × Composer)
  | 0, _, _ => none
  | fuel + 1, seen, p =>
    match p.tokens with
    | .blockEnd :: _ => some (seen.reverse, p.skip)
    | .blockEntry :: _ => do
      let (n, p) ← orNothing? (.block false) [.blockEntry, .blockEnd] fuel p.skip
      blockItems? fuel (n :: seen) p
    | _ => none

/-- Takes the entries of a sequence that is indented no more than the mapping it is a value
of. -/
def looseItems? : Nat → List Node → Composer → Option (List Node × Composer)
  | 0, _, _ => none
  | fuel + 1, seen, p =>
    match p.tokens with
    | .blockEntry :: _ => do
      let (n, p) ← orNothing? (.block false) [.blockEntry, .key, .value, .blockEnd] fuel p.skip
      looseItems? fuel (n :: seen) p
    | _ => some (seen.reverse, p)

/-- Takes the keys and values of a block mapping. -/
def blockEntries? : Nat → List Node → Composer → Option (Node × Composer)
  | 0, _, _ => none
  | fuel + 1, seen, p =>
    match p.tokens with
    | .blockEnd :: _ => (Node.pair? [] none seen.reverse).map fun es => (.mapping es, p.skip)
    | .key :: _ => do
      let (k, p) ← orNothing? (.block true) [.key, .value, .blockEnd] fuel p.skip
      let (v, p) ← blockValue? fuel p
      blockEntries? fuel (v :: k :: seen) p
    | .value :: _ => do
      let (v, p) ← blockValue? fuel p
      blockEntries? fuel (v :: .nothing :: seen) p
    | _ => none

/-- Takes the value of a key in a block mapping, if there is one. -/
def blockValue? : Nat → Composer → Option (Node × Composer)
  | 0, _ => none
  | fuel + 1, p =>
    match p.tokens with
    | .value :: _ => orNothing? (.block true) [.key, .value, .blockEnd] fuel p.skip
    | _ => some (.nothing, p)

/-- Takes the items of a sequence in brackets. -/
def flowItems? (first : Bool) : Nat → List Node → Composer → Option (List Node × Composer)
  | 0, _, _ => none
  | fuel + 1, seen, p => do
    if p.sees [.flowSequenceEnd] then return (seen.reverse, p.skip)
    else if !first && !p.sees [.flowEntry] then none
    else
      let p := if first then p else p.skip
      match p.tokens with
      | .flowSequenceEnd :: _ => return (seen.reverse, p.skip)
      | .key :: _ =>
        let p := p.skip
        let (k, p) ←
          if p.sees [.value, .flowEntry, .flowSequenceEnd] then some (.nothing, p.skip)
          else node? .flow fuel p
        let (v, p) ← pairValue? fuel p
        let es ← Node.pair? [] none [k, v]
        flowItems? false fuel (.mapping es :: seen) p
      | .value :: _ =>
        let (v, p) ← pairValue? fuel p
        flowItems? false fuel (.mapping [(.nothing, v)] :: seen) p
      | _ =>
        let (n, p) ← node? .flow fuel p
        flowItems? false fuel (n :: seen) p

/-- Takes the value of a pair in a sequence in brackets, if there is one. -/
def pairValue? : Nat → Composer → Option (Node × Composer)
  | 0, _ => none
  | fuel + 1, p =>
    match p.tokens with
    | .value :: _ => orNothing? .flow [.flowEntry, .flowSequenceEnd] fuel p.skip
    | _ => some (.nothing, p)

/-- Takes the keys and values of a mapping in braces. -/
def flowEntries? (first : Bool) : Nat → List Node → Composer → Option (Node × Composer)
  | 0, _, _ => none
  | fuel + 1, seen, p => do
    let done (p : Composer) : Option (Node × Composer) :=
      (Node.pair? [] none seen.reverse).map fun es => (.mapping es, p.skip)
    if p.sees [.flowMappingEnd] then done p
    else if !first && !p.sees [.flowEntry] then none
    else
      let p := if first then p else p.skip
      match p.tokens with
      | .flowMappingEnd :: _ => done p
      | .key :: _ =>
        let (k, p) ← orNothing? .flow [.value, .flowEntry, .flowMappingEnd] fuel p.skip
        let (v, p) ← flowValue? fuel p
        flowEntries? false fuel (v :: k :: seen) p
      | .value :: _ =>
        let (v, p) ← flowValue? fuel p
        flowEntries? false fuel (v :: .nothing :: seen) p
      | _ =>
        let (k, p) ← node? .flow fuel p
        flowEntries? false fuel (.nothing :: k :: seen) p

/-- Takes the value of a key in a mapping in braces, if there is one. -/
def flowValue? : Nat → Composer → Option (Node × Composer)
  | 0, _ => none
  | fuel + 1, p =>
    match p.tokens with
    | .value :: _ => orNothing? .flow [.flowEntry, .flowMappingEnd] fuel p.skip
    | _ => some (.nothing, p)

end

/-- Takes the directives in front of a document: at most one version, and one for each
handle. -/
def directives? (versioned : Bool) : Nat → Composer → Option Composer
  | 0, p => some p
  | fuel + 1, p =>
    match p.tokens with
    | .version :: _ => if versioned then none else directives? true fuel p.skip
    | .tagDirective handle lead :: _ =>
      if (p.directives.lookup handle).isSome then none
      else directives? versioned fuel { p.skip with directives := (handle, lead) :: p.directives }
    | _ => some p

/-- Whether the node of a document is missing. -/
def missesContent (p : Composer) : Bool :=
  match p.tokens with
  | [] | .version :: _ | .tagDirective _ _ :: _ | .documentStart :: _ | .documentEnd :: _ => true
  | _ => false

/-- Leaves the marks of ends of documents behind. -/
def skipEnds (p : Composer) : Composer :=
  { p with tokens := p.tokens.dropWhile (· == .documentEnd) }

/-- Takes a document; where directives or its mark begin it, both have to be in place. -/
def document? (p : Composer) : Option (Node × Composer) :=
  let fuel := 8 * (p.tokens.length + 1)
  match p.tokens with
  | .version :: _ | .tagDirective _ _ :: _ | .documentStart :: _ => do
    let p ← directives? false fuel p
    match p.tokens with
    | .documentStart :: _ =>
      if p.skip.missesContent then return (.nothing, p.skip) else node? (.block false) fuel p.skip
    | _ => none
  | _ => node? (.block false) fuel p

end Composer

/-- The node of the only document of a text; there may be no document at all. -/
def document? (text : String) : Option (Option Node) := do
  let p := Composer.skipEnds { tokens := ← tokens? text }
  if p.tokens.isEmpty then return none
  else
    let (n, p) ← p.document?
    if p.skipEnds.tokens.isEmpty then return some n else none

/-- The tree that a text writes. -/
def read? (text : String) : Option Tree := do
  match ← document? text with
  | some n => n.tree?
  | none => return .table []

end Yaml
end PatronGateway
