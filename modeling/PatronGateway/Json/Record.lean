import PatronGateway.Json.Document

/-!
# Records in JSON

A record with named fields is written as an object, in any order and with
members of other names among them, or as an array that gives the fields in the
order of their declaration and may end early.  A field must not be given twice.
-/

namespace PatronGateway
namespace Json
namespace Document

/-- The members of a name. -/
def given (name : String) (members : List (Option String × Document)) : List Document :=
  members.filterMap fun m => if m.1 = some name then some m.2 else none

/-- What a field was given; two members of its name are an error. -/
def field? (name : String) (members : List (Option String × Document)) :
    Option (Option Document) :=
  match given name members with
  | [] => some none
  | [d] => some (some d)
  | _ => none

/-- What the named fields were given by the members of an object, whose names
must all have a text. -/
def memberFields? (names : List String) (members : List (Option String × Document)) :
    Option (List (Option Document)) :=
  if members.all (·.1.isSome) then names.mapM fun name => field? name members else none

/-- What the named fields were given by the items of an array. -/
def itemFields? : List String → List Document → Option (List (Option Document))
  | [], [] => some []
  | [], _ :: _ => none
  | _ :: names, [] => (itemFields? names []).map (none :: ·)
  | _ :: names, d :: items => (itemFields? names items).map (some d :: ·)

/-- What the fields of a record were given, in the order of the names. -/
def fields? (names : List String) : Document → Option (List (Option Document))
  | .object members => memberFields? names members
  | .array items => itemFields? names items
  | _ => none

/-- What the fields of a record were given, where only an object will do. -/
def objectFields? (names : List String) : Document → Option (List (Option Document))
  | .object members => memberFields? names members
  | _ => none

/-- Reads a field that must be given. -/
def required? (read : Document → Option α) (d : Option Document) : Option α :=
  d.bind read

/-- Reads a field that has a default. -/
def withDefault? (default : α) (read : Document → Option α) : Option Document → Option α
  | some d => read d
  | none => some default

end Document
end Json
end PatronGateway
