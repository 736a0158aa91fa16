import PatronGateway.Config.Tree
import PatronGateway.Toml.Lexical

/-!
# Tables that are still being written

While a document is read, its tables remember how they came about, because that
decides how they may go on:

* a table that a header passed through may still get its own header;
* a table that a dotted key made takes more dotted keys, but no header;
* a table with a header of its own takes its members below that header alone;
* a value, be it an array or a table in braces, takes nothing more.
-/

namespace PatronGateway
namespace Toml

open Config (Tree)

/-- How a table came about. -/
inductive Origin where
  | passed
  | dotted
  | headed
  deriving DecidableEq, Repr

/-- A part of a document that is still being written; a series is an array of
tables, whose last one is written to. -/
inductive Node where
  | value (tree : Tree)
  | table (origin : Origin) (members : List (String × Node))
  | series (earlier : List Node) (last : Node)

namespace Node

/-- A document before its first line. -/
def empty : Node :=
  .table .headed []

/-- Adds a member to a table that has none of its name. -/
def add? (n : Node) (name : String) (child : Node) : Option Node :=
  match n with
  | table origin ms =>
    if (ms.lookup name).isSome then none else some (.table origin (ms ++ [(name, child)]))
  | _ => none

/-- Replaces a member of a table. -/
def replace (n : Node) (name : String) (child : Node) : Node :=
  match n with
  | table origin ms => .table origin (Tree.setMember name child ms)
  | n => n

/-- A member of a table. -/
def member? (name : String) : Node → Option Node
  | table _ ms => ms.lookup name
  | _ => none

/-- Whether a table came about in some way. -/
def hasOrigin (origin : Origin) : Node → Bool
  | table o _ => o == origin
  | _ => false

/-- Changes the table at the end of a way.  Tables that are missing on the way are
made; a way of dotted keys does not enter a table with a header of its own. -/
def within? (dotted : Bool) (f : Node → Option Node) : List String → Node → Option Node
  | [], n => f n
  | name :: rest, n =>
    match n.member? name with
    | none => do
      let child ← within? dotted f rest (.table (if dotted then .dotted else .passed) [])
      n.add? name child
    | some (.value _) => none
    | some (.series earlier last) => do
      let last ← within? dotted f rest last
      return n.replace name (.series earlier last)
    | some child =>
      if dotted && child.hasOrigin .headed then none
      else do
        let child ← within? dotted f rest child
        return n.replace name child

/-- Gives a key a value; a table that was reached by dotted keys must have come
about by them. -/
def assign? (k : Key) (v : Tree) (n : Node) : Option Node :=
  n.within? true (fun t =>
    if t.hasOrigin .dotted == k.way.isEmpty then none else t.add? k.name (.value v)) k.way

/-- Opens the table of a header. -/
def openTable? (k : Key) (n : Node) : Option Node :=
  n.within? false (fun t =>
    match t.member? k.name with
    | none => t.add? k.name .empty
    | some (.table .passed ms) => some (t.replace k.name (.table .headed ms))
    | some _ => none) k.way

/-- Opens one more table of the series of a header. -/
def openSeries? (k : Key) (n : Node) : Option Node :=
  n.within? false (fun t =>
    match t.member? k.name with
    | none => t.add? k.name (.series [] .empty)
    | some (.series earlier last) =>
      some (t.replace k.name (.series (earlier ++ [last]) .empty))
    | some _ => none) k.way

mutual

/-- The tree of a document that is written to its end. -/
def toTree : Node → Tree
  | value t => t
  | table _ ms => .table (membersToTree ms)
  | series earlier last => .list (itemsToTree earlier ++ [last.toTree])

/-- The trees of several nodes. -/
def itemsToTree : List Node → List Tree
  | [] => []
  | n :: rest => n.toTree :: itemsToTree rest

/-- The trees of several members. -/
def membersToTree : List (String × Node) → List (String × Tree)
  | [] => []
  | m :: rest => (m.1, m.2.toTree) :: membersToTree rest

end

end Node
end Toml
end PatronGateway
