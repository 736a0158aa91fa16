import PatronGateway.Json.Record

/-!
# Holds as the backend keeps them

The part of a stored hold that a cancellation needs.  The request date is a
text that nobody interprets.
-/

namespace PatronGateway
namespace Hold

open Json (Document)

/-- A stored hold. -/
structure Record where
  id : String
  pickupServicePointId : Option String
  requestDate : String
  deriving DecidableEq, Repr

/-- A member whose value is a string, left out where there is none. -/
def optionalMember (name : String) (value : Option String) : List (String × Document) :=
  match value with
  | some s => [(name, .ofString s)]
  | none => []

namespace Record

/-- The hold that a JSON document writes. -/
def ofDocument? (d : Document) : Option Record := do
  match ← d.fields? ["id", "pickupServicePointId", "requestDate"] with
  | [id, pickup, date] => do
    return {
      id := ← Document.required? Document.string? id
      pickupServicePointId :=
        ← Document.withDefault? none (Document.optional? Document.string?) pickup
      requestDate := ← Document.required? Document.string? date }
  | _ => none

/-- The JSON document that writes a hold. -/
def toDocument (r : Record) : Document :=
  .record ([("id", .ofString r.id)] ++
    optionalMember "pickupServicePointId" r.pickupServicePointId ++
    [("requestDate", .ofString r.requestDate)])

end Record
end Hold
end PatronGateway
