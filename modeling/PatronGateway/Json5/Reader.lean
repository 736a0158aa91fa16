import PatronGateway.Config.Tree
import PatronGateway.Json5.Lexical

/-!
# Reading JSON5

JSON5 is JSON for people: remarks, names without quotes, a comma behind the last
item, and more ways to write a string or a number.  A number without a point and
without an exponent is an integer of 64 bits; one in hexadecimal digits is a natural
number of 32 bits without a sign.  Of several members of one name the last one counts.
-/

namespace PatronGateway
namespace Json5

open Config (Tree)
open Decimal (Double)

/-- Takes the decimal digits at the front of a text. -/
def digits (cs : List Char) : List Char × List Char :=
  (cs.takeWhile Char.isDigit, cs.dropWhile Char.isDigit)

/-- Takes an exponent; where none begins nothing is taken. -/
def exponent (cs : List Char) : List Char × List Char :=
  match cs with
  | e :: rest =>
    let (sign, rest) := match rest with
      | '+' :: rest => (['+'], rest)
      | '-' :: rest => (['-'], rest)
      | rest => ([], rest)
    let (ds, rest) := digits rest
    if (e = 'e' ∨ e = 'E') ∧ ds ≠ [] then (e :: sign ++ ds, rest) else ([], cs)
  | [] => ([], [])

/-- Takes the digits in front of the point: without a zero in front of others. -/
def whole? (cs : List Char) : Option (List Char × List Char) :=
  match cs with
  | '0' :: rest => some (['0'], rest)
  | cs => if (digits cs).1.isEmpty then none else some (digits cs)

/-- Takes the text of a decimal number without a sign. -/
def decimal? (cs : List Char) : Option (List Char × List Char) :=
  match cs with
  | '.' :: rest =>
    let (ds, rest) := digits rest
    let (e, rest) := exponent rest
    if ds.isEmpty then none else some ('.' :: ds ++ e, rest)
  | cs => do
    let (whole, rest) ← whole? cs
    match rest with
    | '.' :: rest =>
      let (ds, rest) := digits rest
      let (e, rest) := exponent rest
      return (whole ++ '.' :: ds ++ e, rest)
    | rest =>
      let (e, rest) := exponent rest
      return (whole ++ e, rest)

/-- The number that the text of a decimal number stands for; one that is too large is an
error. -/
def number? (text : List Char) : Option Tree :=
  if text.any fun c => c == '.' || c == 'e' || c == 'E' then
    (Double.read? text).bind fun d =>
      match d.meaning with
      | .finite .. => some (.real d)
      | _ => none
  else (Tree.integer64? text).map .integer

/-- Takes a natural number in hexadecimal digits, behind its mark. -/
def hexadecimal? (cs : List Char) : Option (Tree × List Char) := do
  let n ← Text.digitsIn? 16 (cs.takeWhile Text.isHexChar)
  if cs.takeWhile Text.isHexChar = [] ∨ 2 ^ 32 ≤ n then none
  else return (.integer n, cs.dropWhile Text.isHexChar)

/-- Takes a number. -/
def numberToken? (cs : List Char) : Option (Tree × List Char) :=
  match cs with
  | '0' :: 'x' :: rest | '0' :: 'X' :: rest => hexadecimal? rest
  | _ => do
    let (sign, body) := match cs with
      | '+' :: rest => (['+'], rest)
      | '-' :: rest => (['-'], rest)
      | cs => ([], cs)
    match Text.dropLead? "Infinity".toList body, Text.dropLead? "NaN".toList body with
    | some rest, _ =>
      if sign = ['+'] then none else return (.real (Double.infinite (sign = ['-'])), rest)
    | _, some rest => if sign = ['+'] then none else return (.real Double.undefined, rest)
    | none, none =>
      let (text, rest) ← decimal? body
      return (← number? (sign ++ text), rest)

/-- Takes one of the three words. -/
def word? (cs : List Char) : Option (Tree × List Char) :=
  [("null", Tree.nothing), ("true", .truth true), ("false", .truth false)].findSome? fun w =>
    (Text.dropLead? w.1.toList cs).map fun rest => (w.2, rest)

mutual

/-- Takes a value; the fuel bounds the number of its tokens. -/
def value? : Nat → List Char → Option (Tree × List Char)
  | 0, _ => none
  | fuel + 1, cs =>
    match cs with
    | '[' :: rest => (items? fuel (skipSpace rest)).map fun p => (.list p.1, p.2)
    | '\x7b' :: rest => (members? fuel [] (skipSpace rest)).map fun p => (.table p.1, p.2)
    | cs =>
      match string? cs with
      | some (s, rest) => some (.text (String.ofList s), rest)
      | none => (word? cs).orElse fun _ => numberToken? cs

/-- Takes the items of an array and its closing bracket. -/
def items? : Nat → List Char → Option (List Tree × List Char)
  | 0, _ => none
  | _, ']' :: rest => some ([], rest)
  | fuel + 1, cs => do
    let (v, rest) ← value? fuel cs
    match skipSpace rest with
    | ',' :: rest =>
      let (vs, rest) ← items? fuel (skipSpace rest)
      return (v :: vs, rest)
    | ']' :: rest => return ([v], rest)
    | _ => none

/-- Takes the members of an object and its closing brace. -/
def members? : Nat → List (String × Tree) → List Char → Option (List (String × Tree) × List Char)
  | 0, _, _ => none
  | _, seen, '\x7d' :: rest => some (seen, rest)
  | fuel + 1, seen, cs => do
    let (name, rest) ← name? cs
    match skipSpace rest with
    | ':' :: rest =>
      let (v, rest) ← value? fuel (skipSpace rest)
      let seen := Tree.setMember (String.ofList name) v seen
      match skipSpace rest with
      | ',' :: rest => members? fuel seen (skipSpace rest)
      | '\x7d' :: rest => return (seen, rest)
      | _ => none
    | _ => none

end

/-- The tree that a text writes. -/
def read? (text : String) : Option Tree := do
  let cs := text.toList
  let (t, rest) ← value? (cs.length + 1) (skipSpace cs)
  if (skipSpace rest).isEmpty then return t else none

end Json5
end PatronGateway
