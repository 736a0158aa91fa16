import PatronGateway.Json.Number

/-!
# JSON values

A `Value` is what a document means where all its parts are kept: every string
has a text, every number a value, and an object holds each name once, in the
order of the names.
-/

namespace PatronGateway
namespace Json

/-- What a JSON document means. -/
inductive Value where
  | null
  | bool (value : Bool)
  | number (value : Number)
  | string (value : String)
  | array (items : List Value)
  | object (members : List (String × Value))
  deriving Repr

/-- Puts a member in its place among members in the order of their names; a
member of the same name gives way. -/
def insertMember (name : String) (value : α) : List (String × α) → List (String × α)
  | [] => [(name, value)]
  | m :: rest =>
    if name == m.1 then (name, value) :: rest
    else if name < m.1 then (name, value) :: m :: rest
    else m :: insertMember name value rest

/-- Members in the order of their names; of several with one name the last. -/
def sortMembers (members : List (String × α)) : List (String × α) :=
  members.foldl (fun sorted m => insertMember m.1 m.2 sorted) []

mutual

/-- The meaning of a document, if all its strings and numbers have one. -/
def Document.meaning? : Document → Option Value
  | .null => some .null
  | .bool b => some (.bool b)
  | .number n => (Number.ofNumeral? n).map .number
  | .text s => s.map .string
  | .array items => (itemsMeaning? items).map .array
  | .object members => (membersMeaning? members).map fun ms => .object (sortMembers ms)

/-- The meanings of several documents. -/
def itemsMeaning? : List Document → Option (List Value)
  | [] => some []
  | d :: rest => do
    let v ← d.meaning?
    let vs ← itemsMeaning? rest
    return v :: vs

/-- The meanings of several members. -/
def membersMeaning? : List (Option String × Document) → Option (List (String × Value))
  | [] => some []
  | m :: rest => do
    let name ← m.1
    let v ← m.2.meaning?
    let ms ← membersMeaning? rest
    return (name, v) :: ms

end

/-- The meaning of a document all of whose parts are kept; such a document must
not be too deep. -/
def Document.value? (d : Document) : Option Value :=
  if d.depth < Document.depthLimit then d.meaning? else none

mutual

/-- The document that writes a value; what is no number becomes `null`. -/
def Value.toDocument : Value → Document
  | .null => .null
  | .bool b => .bool b
  | .number n => match n.toNumeral? with
    | some n => .number n
    | none => .null
  | .string s => .text (some s)
  | .array items => .array (itemsToDocument items)
  | .object members => .object (membersToDocument members)

/-- The documents that write several values. -/
def itemsToDocument : List Value → List Document
  | [] => []
  | v :: rest => v.toDocument :: itemsToDocument rest

/-- The members that write several values. -/
def membersToDocument : List (String × Value) → List (Option String × Document)
  | [] => []
  | m :: rest => (some m.1, m.2.toDocument) :: membersToDocument rest

end

end Json
end PatronGateway
