import PatronGateway.Ron.Number

/-!
# Reading RON

A structure `(host: "h", port: 1)` is a table, whether it has a name in front or not;
so is a map in braces whose keys are texts.  Values without names in parentheses are a
list, like values in brackets.  `None` and a name by itself are nothing, and `Some(v)`
is `v`.

Parts may be nested, but not too deeply; the depth counts the steps from a part into
its items, and from there into each of them.
-/

namespace PatronGateway
namespace Ron

open Config (Tree)
open Decimal (Double)

/-- The steps that lead into the parts of a document at most. -/
def depthLimit : Nat :=
  128

/-- What stands in parentheses. -/
inductive Body where
  | fields
  | items
  deriving DecidableEq, Repr

/-- Looks behind an opening parenthesis: a name and a colon begin fields. -/
def body? (cs : List Char) : Option Body := do
  let cs ← skipSpace? cs
  match name? cs with
  | some (_, rest) =>
    match ← skipSpace? rest with
    | ':' :: _ => return .fields
    | ',' :: rest => (skipSpace? rest).map fun _ => .items
    | _ => return .items
  | none => return .items

/-- Takes one of the words that are values. -/
def constant? (cs : List Char) : Option (Tree × List Char) :=
  [("true", Tree.truth true), ("false", .truth false), ("None", .nothing),
    ("inf", .real (Double.infinite false)), ("inff32", .real (Double.infinite false)),
    ("inff64", .real (Double.infinite false)), ("NaN", .real Double.undefined),
    ("NaNf32", .real Double.undefined), ("NaNf64", .real Double.undefined)].findSome? fun w =>
    (word? w.1 cs).map fun rest => (w.2, rest)

/-- Takes a value that has no parts. -/
def scalar? (cs : List Char) : Option (Tree × List Char) :=
  match cs with
  | '"' :: _ | 'r' :: _ => (string? cs).map fun p => (.text (String.ofList p.1), p.2)
  | '\x27' :: _ => (char? cs).map fun p => (.text (String.ofList [p.1]), p.2)
  | 'b' :: '\x27' :: rest => (byte? ('\x27' :: rest)).map fun p => (.integer p.1, p.2)
  | 'b' :: rest =>
    (bytes? rest).map fun p => (.list (p.1.map fun b => .integer b.toNat), p.2)
  | c :: _ => if c.isDigit || c ∈ ['+', '-', '.'] then number? cs else none
  | [] => none

/-- The name that a key of a map says, given as it is written and as what it says: a text,
or bytes that are one. -/
def keyName? (written : List Char) : Tree → Option String
  | .text name => if (word? "Some" written).isSome then none else some name
  | .list ts => do
    let bytes ← ts.mapM fun t => match t with
      | .integer i => some (UInt8.ofNat i.toNat)
      | _ => none
    if written.head? = some 'b' then Text.Utf8.decode? bytes else none
  | _ => none

mutual

/-- Takes a value; the fuel bounds the number of its tokens. -/
def value? (depth : Nat) : Nat → List Char → Option (Tree × List Char)
  | 0, _ => none
  | fuel + 1, cs =>
    match constant? cs with
    | some p => some p
    | none =>
      match word? "Some" cs, depth with
      | some rest, depth => do
        match ← skipSpace? rest, depth with
        | '(' :: rest, depth + 1 =>
          let (v, rest) ← value? depth fuel (← skipSpace? rest)
          match (← comma? rest).2 with
          | ')' :: rest => return (v, rest)
          | _ => none
        | _, _ => none
      | none, depth =>
        match Text.dropLead? ['(', ')'] cs, name? cs with
        | some rest, _ => some (.nothing, rest)
        | none, some (_, rest) => do
          match ← skipSpace? rest with
          | '(' :: rest => parenthesis? depth fuel rest
          | rest => return (.nothing, rest)
        | none, none =>
          match cs, depth with
          | '(' :: rest, depth => parenthesis? depth fuel rest
          | '[' :: rest, depth + 1 => do
            let (ts, rest) ← items? ']' depth fuel (← skipSpace? rest)
            return (.list ts, rest)
          | '\x7b' :: rest, depth + 1 => do
            let (ms, rest) ← entries? depth fuel [] (← skipSpace? rest)
            return (.table ms, rest)
          | cs, _ => scalar? cs

/-- Takes what stands behind an opening parenthesis, and the closing one. -/
def parenthesis? (depth : Nat) : Nat → List Char → Option (Tree × List Char)
  | 0, _ => none
  | fuel + 1, cs =>
    match depth with
    | 0 => none
    | depth + 1 => do
      match ← body? cs with
      | .fields =>
        let (ms, rest) ← fields? depth fuel [] (← skipSpace? cs)
        return (.table ms, rest)
      | .items =>
        let (ts, rest) ← items? ')' depth fuel (← skipSpace? cs)
        return (.list ts, rest)

/-- Takes values up to a closing mark. -/
def items? (close : Char) (depth : Nat) : Nat → List Char → Option (List Tree × List Char)
  | 0, _ => none
  | fuel + 1, cs =>
    match cs, depth with
    | [], _ => none
    | c :: rest, 0 => if c = close then some ([], rest) else none
    | c :: rest, depth + 1 =>
      if c = close then some ([], rest)
      else do
        let (v, rest) ← value? depth fuel (c :: rest)
        let (more, rest) ← comma? rest
        if more then
          let (vs, rest) ← items? close (depth + 1) fuel rest
          return (v :: vs, rest)
        else
          match rest with
          | d :: rest => if d = close then return ([v], rest) else none
          | [] => none

/-- Takes fields and the closing parenthesis. -/
def fields? (depth : Nat) :
    Nat → List (String × Tree) → List Char → Option (List (String × Tree) × List Char)
  | 0, _, _ => none
  | fuel + 1, seen, cs =>
    match cs, depth with
    | ')' :: rest, _ => some (seen, rest)
    | _, 0 => none
    | cs, depth + 1 => do
      let (name, rest) ← fieldName? cs
      match ← skipSpace? rest with
      | ':' :: rest =>
        let (v, rest) ← value? depth fuel (← skipSpace? rest)
        let seen := Tree.setMember (String.ofList name) v seen
        let (more, rest) ← comma? rest
        if more then fields? (depth + 1) fuel seen rest
        else
          match rest with
          | ')' :: rest => return (seen, rest)
          | _ => none
      | _ => none

/-- Takes the entries of a map and its closing brace. -/
def entries? (depth : Nat) :
    Nat → List (String × Tree) → List Char → Option (List (String × Tree) × List Char)
  | 0, _, _ => none
  | fuel + 1, seen, cs =>
    match cs, depth with
    | '\x7d' :: rest, _ => some (seen, rest)
    | _, 0 => none
    | cs, depth + 1 => do
      let (k, rest) ← value? depth fuel cs
      let name ← keyName? cs k
      match ← skipSpace? rest with
      | ':' :: rest =>
        let (v, rest) ← value? depth fuel (← skipSpace? rest)
        let seen := Tree.setMember name v seen
        let (more, rest) ← comma? rest
        if more then entries? (depth + 1) fuel seen rest
        else
          match rest with
          | '\x7d' :: rest => return (seen, rest)
          | _ => none
      | _ => none

end

/-- The extensions that a document may ask for.  They change how a document is read into
types that are known beforehand, and none of them changes its tree. -/
def extensions : List String :=
  ["unwrap_newtypes", "implicit_some", "unwrap_variant_newtypes", "explicit_struct_names"]

/-- Takes the names of extensions. -/
def extensionNames? : Nat → List Char → Option (List Char)
  | 0, _ => none
  | fuel + 1, cs => do
    let (name, rest) ← fieldName? cs
    if String.ofList name ∈ extensions then
      let (more, rest) ← comma? rest
      if more && rest.head?.any isNameStart then extensionNames? fuel rest else return rest
    else none

/-- Takes marks with blanks behind each of them. -/
def marks? : List String → List Char → Option (List Char)
  | [], cs => some cs
  | mark :: more, cs => do
    let rest ← Text.dropLead? mark.toList cs
    marks? more (← skipSpace? rest)

/-- Drops the attributes in front of a document. -/
def attributes? : Nat → List Char → Option (List Char)
  | 0, _ => none
  | fuel + 1, cs => do
    match ← skipSpace? cs with
    | '#' :: rest =>
      let rest ← marks? ["!", "[", "enable", "("] (← skipSpace? rest)
      let rest ← extensionNames? rest.length rest
      attributes? fuel (← marks? [")", "]"] rest)
    | rest => return rest

/-- The tree that a text writes. -/
def read? (text : String) : Option Tree := do
  let cs := text.toList
  let cs ← attributes? (cs.length + 1) cs
  let (t, rest) ← value? depthLimit (2 * cs.length + 2) cs
  if (← skipSpace? rest).isEmpty then return t else none

end Ron
end PatronGateway
