import PatronGateway.Toml.Node
import PatronGateway.Toml.Scalar

/-!
# Reading TOML

A document is a row of lines, each of which opens a table, gives a key a value,
or is empty.  `Toml.read?` folds the lines into one table and gives its tree;
there is none if a line breaks the grammar or writes where nothing more may be
written.
-/

namespace PatronGateway
namespace Toml

open Config (Tree)

mutual

/-- Takes a value that may be nested to some depth; the fuel bounds the number of its
tokens. -/
def value? (depth : Nat) : Nat → List Char → Option (Tree × List Char)
  | 0, _ => none
  | fuel + 1, cs =>
    match cs, depth with
    | '[' :: rest, depth + 1 =>
      (items? depth fuel (skipSpace rest)).map fun p => (.list p.1, p.2)
    | '\x7b' :: rest, depth + 1 =>
      (inline? depth fuel .empty (skipSpace rest)).map fun p => (p.1.toTree, p.2)
    | cs, _ =>
      match string? cs with
      | some (s, rest) => some (.text (String.ofList s), rest)
      | none => scalarToken? cs

/-- Takes the items of an array and its closing bracket. -/
def items? (depth : Nat) : Nat → List Char → Option (List Tree × List Char)
  | 0, _ => none
  | _, ']' :: rest => some ([], rest)
  | fuel + 1, cs => do
    let (v, rest) ← value? depth fuel cs
    match skipSpace rest with
    | ',' :: rest =>
      let (vs, rest) ← items? depth fuel (skipSpace rest)
      return (v :: vs, rest)
    | ']' :: rest => return ([v], rest)
    | _ => none

/-- Takes the members of a table in braces and its closing brace. -/
def inline? (depth : Nat) : Nat → Node → List Char → Option (Node × List Char)
  | 0, _, _ => none
  | _, n, '\x7d' :: rest => some (n, rest)
  | fuel + 1, n, cs => do
    let (k, rest) ← key? cs
    match rest with
    | '=' :: rest =>
      let (v, rest) ← value? depth fuel (skipBlanks rest)
      let n ← n.assign? k v
      match skipSpace rest with
      | ',' :: rest => inline? depth fuel n (skipSpace rest)
      | '\x7d' :: rest => return (n, rest)
      | _ => none
    | _ => none

end

/-- What a line says. -/
inductive Line where
  | table (key : Key)
  | series (key : Key)
  | assignment (key : Key) (value : Tree)

/-- Takes what a line says, up to its comment. -/
def line? (cs : List Char) : Option (Line × List Char) :=
  match cs with
  | '[' :: '[' :: rest => do
    let (k, rest) ← key? rest
    match rest with
    | ']' :: ']' :: rest => return (.series k, rest)
    | _ => none
  | '[' :: rest => do
    let (k, rest) ← key? rest
    match rest with
    | ']' :: rest => return (.table k, rest)
    | _ => none
  | cs => do
    let (k, rest) ← key? cs
    match rest with
    | '=' :: rest =>
      let (v, rest) ← value? nestingLimit (rest.length + 1) (skipBlanks rest)
      return (.assignment k v, rest)
    | _ => none

/-- A document up to some line: what is written, and the way to the table that is
open. -/
structure Progress where
  root : Node
  place : List String

/-- A document with one more line. -/
def Progress.feed? (p : Progress) : Line → Option Progress
  | .table k => (p.root.openTable? k).map fun root => ⟨root, k.way ++ [k.name]⟩
  | .series k => (p.root.openSeries? k).map fun root => ⟨root, k.way ++ [k.name]⟩
  | .assignment k v =>
    (p.root.within? false (fun t => t.assign? k v) p.place).map fun root => { p with root }

/-- Reads lines to the end of a text; the fuel bounds their number. -/
def lines? : Nat → Progress → List Char → Option Progress
  | 0, _, _ => none
  | fuel + 1, p, cs =>
    match skipSpace cs with
    | [] => some p
    | cs => do
      let (line, rest) ← line? cs
      let p ← p.feed? line
      let rest := skipComment (skipBlanks rest)
      if rest.isEmpty then some p else lines? fuel p (← takeLineEnd? rest)

/-- The tree that a document writes. -/
def read? (text : String) : Option Tree :=
  let cs := text.toList
  (lines? (cs.length + 1) ⟨.empty, []⟩ cs).map fun p => p.root.toTree

end Toml
end PatronGateway
