import PatronGateway.Config.Tree
import PatronGateway.Text.Hex
import PatronGateway.Yaml.Token

/-!
# Nodes of YAML

A document is a node: a scalar, a sequence or a mapping.  A plain scalar without a tag is
what it looks like; the tags of the core schema say what it has to be, and under any other
tag it is a text.  A node whose tag says what it cannot be is `faulty`, and so is an alias
within the node that it refers to.

A faulty node cannot be the key of a mapping: whatever comes next takes its place.
-/

namespace PatronGateway
namespace Yaml

open Config (Tree)
open Decimal (Double)

/-- A scalar, with the text of a number that is no integer. -/
inductive Scalar where
  | nothing
  | truth (value : Bool)
  | integer (value : Int)
  | real (text : String)
  | text (value : String)
  deriving DecidableEq, Repr

namespace Scalar

/-- An integer of 64 bits in some base, with or without a sign. -/
def based? (radix : Nat) (cs : List Char) : Option Scalar := do
  let (negative, body) := Double.takeSign cs
  let n ← if body.isEmpty then none else Text.digitsIn? radix body
  let i : Int := if negative then -(n : Int) else n
  if -(2 ^ 63) ≤ i ∧ i < 2 ^ 63 then return .integer i else none

/-- An integer behind a mark: one of two bases, or a plus sign. -/
def marked? : List Char → Option Scalar
  | '0' :: 'x' :: rest => based? 16 rest
  | '0' :: 'o' :: rest => based? 8 rest
  | '+' :: rest => (Tree.integer64? rest).map .integer
  | _ => none

/-- The words for numbers that are infinite or undefined. -/
def unboundedWords : List String :=
  [".inf", ".Inf", ".INF", "+.inf", "+.Inf", "+.INF", "-.inf", "-.Inf", "-.INF", ".nan", ".NaN",
    ".NAN"]

/-- Whether a text is a number that is no integer. -/
def isReal (text : String) : Bool :=
  text ∈ unboundedWords ||
    (text.toList.any Char.isDigit && (Double.read? text.toList).isSome)

/-- What a plain scalar looks like. -/
def guess (text : String) : Scalar :=
  match marked? text.toList with
  | some s => s
  | none =>
    match text with
    | "" | "~" | "null" => .nothing
    | "true" => .truth true
    | "false" => .truth false
    | _ =>
      match Tree.integer64? text.toList with
      | some i => .integer i
      | none => if isReal text then .real text else .text text

/-- What a plain scalar is under a tag of the core schema, if it can be that. -/
def core? (tag text : String) : Option Scalar :=
  match tag with
  | "bool" =>
    match text with
    | "true" => some (.truth true)
    | "false" => some (.truth false)
    | _ => none
  | "int" => (Tree.integer64? text.toList).map .integer
  | "float" => if isReal text then some (.real text) else none
  | "null" => if text = "~" ∨ text = "null" then some .nothing else none
  | _ => some (.text text)

/-- The setting that a scalar says; there is none for an infinite number. -/
def tree? : Scalar → Option Tree
  | nothing => some .nothing
  | truth b => some (.truth b)
  | integer i => some (.integer i)
  | real s => (Double.read? s.toList).map .real
  | text s => some (.text s)

/-- The name of the member whose key is a scalar. -/
def name? : Scalar → Option String
  | nothing => none
  | truth b => some (if b then "true" else "false")
  | integer i => some (toString i)
  | real s => some s
  | text s => some s

end Scalar

/-- A tag: what it begins with once its handle is resolved, and the rest. -/
structure Tag where
  lead : String
  suffix : String
  deriving DecidableEq, Repr

/-- What the tags of the core schema begin with. -/
def coreLead : String :=
  "tag:yaml.org,2002:"

/-- A part of a document. -/
inductive Node where
  | faulty
  | scalar (value : Scalar)
  | sequence (items : List Node)
  | mapping (entries : List (Node × Node))

namespace Node

instance : Inhabited Node := ⟨.faulty⟩

/-- The node that is nothing. -/
def nothing : Node :=
  .scalar .nothing

/-- The node of a scalar. -/
def ofScalar (plain : Bool) (tag : Option Tag) (text : String) : Node :=
  if !plain then .scalar (.text text)
  else
    match tag with
    | none => .scalar (.guess text)
    | some t =>
      if t.lead = coreLead then ((Scalar.core? t.suffix text).map Node.scalar).getD .faulty
      else .scalar (.text text)

/-- Whether a node is faulty. -/
def isFaulty : Node → Bool
  | faulty => true
  | _ => false

/-- The scalar that a node is. -/
def scalar? : Node → Option Scalar
  | scalar s => some s
  | _ => none

/-- The entries of a mapping from its keys and values in the order of the text.  A key
must not come twice. -/
def pair? (entries : List (Node × Node)) (key : Option Node) :
    List Node → Option (List (Node × Node))
  | [] => some entries
  | n :: rest =>
    match key with
    | none => pair? entries (if n.isFaulty then none else some n) rest
    | some k =>
      if k.scalar?.isSome && entries.any fun e => e.1.scalar? == k.scalar? then none
      else pair? (entries ++ [(k, n)]) none rest

mutual

/-- The setting that a node says. -/
def tree? : Node → Option Tree
  | faulty => some .nothing
  | scalar s => s.tree?
  | sequence ns => (trees? ns).map .list
  | mapping es => (members? es).map fun ms =>
    .table (ms.foldl (fun seen m => Tree.setMember m.1 m.2 seen) [])

/-- The settings that several nodes say. -/
def trees? : List Node → Option (List Tree)
  | [] => some []
  | n :: rest => do return (← tree? n) :: (← trees? rest)

/-- The members that the entries of a mapping say, whose keys have to be scalars. -/
def members? : List (Node × Node) → Option (List (String × Tree))
  | [] => some []
  | e :: rest => do
    let name ← e.1.scalar?.bind Scalar.name?
    return (name, ← tree? e.2) :: (← members? rest)

end

end Node
end Yaml
end PatronGateway
