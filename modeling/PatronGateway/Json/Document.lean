import PatronGateway.Text.Digit

/-!
# JSON documents

A `Document` is a JSON text after its grammar has been checked and before any
of its parts has been given a meaning.  Members keep their order and may
repeat, numbers keep their digits, and a string that pairs surrogates wrongly
is kept without a text: nobody may use it, but a reader that ignores the value
need not refuse it.
-/

namespace PatronGateway
namespace Json

open Text (Digit)

/-- The power of ten at the end of a number. -/
structure Exponent where
  negative : Bool
  digits : List Digit
  deriving DecidableEq, Repr

/-- A number as it is written. -/
structure Numeral where
  negative : Bool
  whole : List Digit
  fraction : Option (List Digit)
  exponent : Option Exponent
  deriving DecidableEq, Repr

/-- A natural number, written with digits alone. -/
def Numeral.ofNat (n : Nat) : Numeral :=
  ⟨false, Text.digits n, none, none⟩

/-- An integer, written with digits and at most a minus sign. -/
def Numeral.ofInt (i : Int) : Numeral :=
  ⟨decide (i < 0), Text.digits i.natAbs, none, none⟩

/-- A JSON text after its grammar has been checked. -/
inductive Document where
  | null
  | bool (value : Bool)
  | number (value : Numeral)
  | text (value : Option String)
  | array (items : List Document)
  | object (members : List (Option String × Document))
  deriving Repr

namespace Document

/-- An object with usable member names. -/
def record (members : List (String × Document)) : Document :=
  .object (members.map fun m => (some m.1, m.2))

/-- A string. -/
def ofString (s : String) : Document :=
  .text (some s)

/-- A natural number. -/
def ofNat (n : Nat) : Document :=
  .number (.ofNat n)

/-- The string that a document is. -/
def string? : Document → Option String
  | .text s => s
  | _ => none

/-- The name of a case without data: a string, or an object whose only member has
the name and holds nothing. -/
def caseName? : Document → Option String
  | .text s => s
  | .object [(name, .null)] => name
  | _ => none

/-- The name of a case without data, where an object without members also holds
nothing. -/
def looseCaseName? : Document → Option String
  | .object [(name, .object [])] => name
  | d => d.caseName?

/-- The truth value that a document is. -/
def bool? : Document → Option Bool
  | .bool b => some b
  | _ => none

/-- The natural number below `2 ^ 64` that a document is; a sign, a fraction or
an exponent makes it something else, whatever its value. -/
def natural? : Document → Option Nat
  | .number ⟨false, whole, none, none⟩ =>
    let n := Text.value whole
    if n < 2 ^ 64 then some n else none
  | _ => none

/-- The integer of 64 bits that a document is; `-0` is none. -/
def integer? : Document → Option Int
  | .number ⟨negative, whole, none, none⟩ =>
    let n := Text.value whole
    if negative then
      if 0 < n ∧ n ≤ 2 ^ 63 then some (-(n : Int)) else none
    else
      if n < 2 ^ 63 then some n else none
  | _ => none

/-- Reads an optional part: `null` stands for nothing. -/
def optional? (read : Document → Option α) : Document → Option (Option α)
  | .null => some none
  | d => (read d).map some

/-- The items of an array, each read in the same way. -/
def listOf? (read : Document → Option α) : Document → Option (List α)
  | .array items => items.mapM read
  | _ => none

mutual

/-- How deep arrays and objects stand inside each other. -/
def depth : Document → Nat
  | .array items => itemsDepth items + 1
  | .object members => membersDepth members + 1
  | _ => 0

/-- The depth of the deepest of several documents. -/
def itemsDepth : List Document → Nat
  | [] => 0
  | d :: rest => max d.depth (itemsDepth rest)

/-- The depth of the deepest of several members. -/
def membersDepth : List (Option String × Document) → Nat
  | [] => 0
  | m :: rest => max m.2.depth (membersDepth rest)

end

/-- The depth from which on a document is refused wherever its parts are kept. -/
def depthLimit : Nat := 128

end Document
end Json
end PatronGateway
