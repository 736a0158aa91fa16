import PatronGateway.Config.Form
import PatronGateway.Decimal.Nearest

/-!
# Trees of settings

A `Tree` is what a file or a variable says about settings, before anybody asks
for them.  It is loosely typed: a text may stand for a number or a truth value
where one is asked for, and most of what is not a text may stand for one.

Several trees are laid over each other with `Tree.overlay`: tables are merged
member by member, and everything else gives way to what comes later.
-/

namespace PatronGateway
namespace Config

open Decimal (Double)

/-- What is said about settings. -/
inductive Tree where
  | nothing
  | truth (value : Bool)
  | integer (value : Int)
  | real (value : Double)
  | text (value : String)
  | list (items : List Tree)
  | table (members : List (String × Tree))
  deriving Repr

namespace Tree

instance : Inhabited Tree := ⟨.nothing⟩

/-- The members of a table; anything else has none. -/
def members : Tree → List (String × Tree)
  | table ms => ms
  | _ => []

/-- The items of a list; anything else has none. -/
def items : Tree → List Tree
  | list ts => ts
  | _ => []

/-- Gives a member of a table a new value, where it stands or at the end. -/
def setMember (name : String) (value : α) : List (String × α) → List (String × α)
  | [] => [(name, value)]
  | m :: rest => if m.1 = name then (name, value) :: rest else m :: setMember name value rest

/-- What a table says about a member. -/
def memberOf (t : Tree) (name : String) : Tree :=
  (t.members.lookup name).getD .nothing

mutual

/-- Lays a tree over another one. -/
def overlay (below : Tree) : Tree → Tree
  | table ms => .table (overlayMembers below.members ms)
  | t => t

/-- Lays members over other members. -/
def overlayMembers (below : List (String × Tree)) : List (String × Tree) → List (String × Tree)
  | [] => below
  | m :: rest =>
    let current := (below.lookup m.1).getD .nothing
    overlayMembers (setMember m.1 (overlay current m.2) below) rest

end

/-- The truth value that a word stands for. -/
def truthWord? (word : String) : Option Bool :=
  if word ∈ ["true", "on", "yes"] then some true
  else if word ∈ ["false", "off", "no"] then some false
  else none

/-- The natural number below `2 ^ 64` that a text is, with or without a plus
sign. -/
def naturalText? (text : String) : Option Nat :=
  let digits := match text.toList with
    | '+' :: rest => rest
    | cs => cs
  (Text.natural? digits).filter fun n => n < 2 ^ 64

/-- The integer of 64 bits that a text is, with or without a sign. -/
def integer64? (cs : List Char) : Option Int :=
  let (negative, body) := Double.takeSign cs
  match Text.natural? body with
  | some n =>
    let i : Int := if negative then -(n : Int) else n
    if -(2 ^ 63) ≤ i ∧ i < 2 ^ 63 then some i else none
  | none => none

/-- A tree where a text is asked for. -/
def text? : Tree → Option String
  | text s => some s
  | truth b => some (if b then "true" else "false")
  | integer i => some (toString i)
  | real d => some (Decimal.plain d)
  | _ => none

/-- A tree where a natural number is asked for. -/
def natural? : Tree → Option Nat
  | integer i => if 0 ≤ i then some i.toNat else none
  | truth b => some b.toNat
  | real d => some d.clampedNatural
  | text s =>
    match truthWord? s.toLower with
    | some b => some b.toNat
    | none => naturalText? s
  | _ => none

/-- A tree where a truth value is asked for. -/
def truth? : Tree → Option Bool
  | truth b => some b
  | integer i => some (i != 0)
  | real d => some d.isNonzero
  | text s =>
    match s.toLower with
    | "1" => some true
    | "0" => some false
    | word => truthWord? word
  | _ => none

/-- The items for the fields of a record; there may be fewer than fields, and
whatever comes after the last field is ignored. -/
def fieldItems : List String → List Tree → List (Option Tree)
  | [], _ => []
  | _ :: names, [] => none :: fieldItems names []
  | _ :: names, t :: rest => some t :: fieldItems names rest

/-- What the fields of a record were given by a table, or by a list in the order
of the fields. -/
def fields? (names : List String) : Tree → Option (List (Option Tree))
  | table ms => some (names.map fun name => ms.lookup name)
  | list ts => some (fieldItems names ts)
  | _ => none

end Tree

instance : Form Tree where
  fields? := Tree.fields?
  text? := Tree.text?
  natural? := Tree.natural?
  truth? := Tree.truth?
  isNothing
    | .nothing => true
    | _ => false

end Config
end PatronGateway
