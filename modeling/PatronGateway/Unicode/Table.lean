import PatronGateway.Text.Hex
import PatronGateway.Text.Split

/-!
# Tables of code points

A table gives values to rows of code points.  The rows stand in the order of their
code points and do not overlap, so a code point is found by halving.  Tables are
written as texts: spans such as `41-5a` or `aa` in hexadecimal digits, with blanks or
line breaks between them.
-/

namespace PatronGateway
namespace Unicode

/-- The code points from a first to a last one, with their value. -/
structure Row (α : Type) where
  first : Nat
  last : Nat
  value : α

/-- Rows in the order of their code points. -/
structure Table (α : Type) where
  rows : Array (Row α)

namespace Table

variable {α : Type}

/-- The number of the rows that begin at a code point or before it, if it is known
to lie between two bounds. -/
def seek (t : Table α) (code low high : Nat) : Nat :=
  if low < high then
    let middle := (low + high) / 2
    match t.rows[middle]? with
    | some row => if row.first ≤ code then t.seek code (middle + 1) high else t.seek code low middle
    | none => low
  else low
termination_by high - low

/-- The row of a code point. -/
def row? (t : Table α) (code : Nat) : Option (Row α) :=
  match t.seek code 0 t.rows.size with
  | 0 => none
  | n + 1 => (t.rows[n]?).filter fun row => code ≤ row.last

/-- The value of a code point. -/
def find? (t : Table α) (code : Nat) : Option α :=
  (t.row? code).map Row.value

/-- Rows in any order as a table. -/
def ofRows (rows : List (Row α)) : Table α :=
  ⟨rows.toArray.qsort fun a b => a.first < b.first⟩

end Table

/-- The pieces of a text between blanks and line breaks. -/
def pieces (text : String) : List (List Char) :=
  (Text.splitOn ' ' (text.toList.map fun c => if c = '\n' then ' ' else c)).filter
    fun piece => !piece.isEmpty

/-- Reads a span of code points. -/
def span? (piece : List Char) : Option (Nat × Nat) :=
  match (Text.splitOn '-' piece).mapM (Text.digitsIn? 16) with
  | some [code] => some (code, code)
  | some [first, last] => some (first, last)
  | _ => none

/-- The rows of the spans of a text, all with one value. -/
def spanRows {α : Type} (value : α) (text : String) : List (Row α) :=
  ((pieces text).filterMap span?).map fun s => ⟨s.1, s.2, value⟩

/-- A set of code points. -/
abbrev CodeSet := Table Unit

/-- The set that the spans of a text make up. -/
def CodeSet.ofSpans (text : String) : CodeSet :=
  .ofRows (spanRows () text)

/-- Whether a character is in a set. -/
def CodeSet.has (s : CodeSet) (c : Char) : Bool :=
  (s.row? c.toNat).isSome

end Unicode
end PatronGateway
