import PatronGateway.Config.Tree

/-!
# Paths of settings

A path names a place in a tree of settings: `server.port`, or `hosts[0].name`
with the position in a list.  Putting a tree at a path makes whatever is missing
on the way, and overrides whatever is in the way.
-/

namespace PatronGateway
namespace Config

/-- A step from a tree to a part of it. -/
inductive Step where
  | member (name : String)
  | item (position : Int)
  deriving DecidableEq, Repr

/-- A member of a table and the steps from there. -/
structure Path where
  root : String
  steps : List Step
  deriving DecidableEq, Repr

namespace Path

/-- A character of a name in a path. -/
def isNameChar (c : Char) : Bool :=
  (c.toNat < 0x80 && c.isAlphanum) || c == '_' || c == '-'

/-- Takes a name from the front. -/
def takeName? (cs : List Char) : Option (String × List Char) :=
  let name := cs.takeWhile isNameChar
  if name.isEmpty then none else some (String.ofList name, cs.dropWhile isNameChar)

/-- A character that may stand around a position. -/
def isPadding (c : Char) : Bool :=
  c == ' ' || c == '\t'

/-- Takes a position up to its closing bracket from the front. -/
def takePosition? (cs : List Char) : Option (Int × List Char) :=
  let (negative, cs) := match cs.dropWhile isPadding with
    | '-' :: rest => (true, rest)
    | cs => (false, cs)
  let (digits, rest) := Text.takeDigits cs
  let n := Text.value digits
  match rest.dropWhile isPadding with
  | ']' :: rest =>
    if digits.isEmpty || 2 ^ 63 ≤ n then none
    else some (if negative then -(n : Int) else n, rest)
  | _ => none

/-- Reads steps; the fuel bounds their number. -/
def steps? : Nat → List Char → Option (List Step)
  | _, [] => some []
  | 0, _ => none
  | fuel + 1, '.' :: rest => do
    let (name, rest) ← takeName? rest
    return .member name :: (← steps? fuel rest)
  | fuel + 1, '[' :: rest => do
    let (position, rest) ← takePosition? rest
    return .item position :: (← steps? fuel rest)
  | _, _ => none

/-- Reads a path. -/
def read? (text : String) : Option Path := do
  let (root, rest) ← takeName? text.toList
  return ⟨root, ← steps? rest.length rest⟩

/-- The path that a text names: one that is no path is the name of a member. -/
def ofText (text : String) : Path :=
  (read? text).getD ⟨text, []⟩

end Path

namespace Tree

/-- A list that has an item at a position, counted from the end if it is
negative, and that position counted from the front; missing items are made. -/
def withRoom (ts : List Tree) (position : Int) : List Tree × Nat :=
  match position with
  | .ofNat n => (ts ++ List.replicate (n + 1 - ts.length) .nothing, n)
  | .negSucc n =>
    (List.replicate (n + 1 - ts.length) .nothing ++ ts, ts.length - (n + 1))

/-- Lays a tree over what is found at the end of some steps. -/
def overlayAt (value : Tree) : List Step → Tree → Tree
  | [], t => overlay t value
  | .member name :: rest, t =>
    .table (setMember name (overlayAt value rest (t.memberOf name)) t.members)
  | .item position :: rest, t =>
    let (ts, i) := withRoom t.items position
    .list (ts.modify i (overlayAt value rest))

/-- Lays a tree over what is found at a path. -/
def putAt (p : Path) (value t : Tree) : Tree :=
  overlayAt value (.member p.root :: p.steps) t

/-- Puts members at the paths that their names are. -/
def putAll (ms : List (String × Tree)) (t : Tree) : Tree :=
  ms.foldl (fun t m => putAt (Path.ofText m.1) m.2 t) t

end Tree
end Config
end PatronGateway
