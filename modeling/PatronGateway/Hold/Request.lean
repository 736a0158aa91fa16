import PatronGateway.Hold.Record
import PatronGateway.Text.Blank
import PatronGateway.Text.Uuid
import PatronGateway.Time.Instant

/-!
# Requests to cancel a hold

What a client sends to cancel a hold.  A request is valid for the hold of a
path when its three ids are UUIDs and its hold id is the same UUID as the path's,
in whatever spelling.
-/

namespace PatronGateway
namespace Hold

open Json (Document)
open Time (Instant)
open Text (Uuid)

/-- A request to cancel a hold. -/
structure Request where
  holdId : String
  cancellationReasonId : String
  canceledByUserId : String
  additionalInformation : Option String
  canceledDate : Option Instant
  deriving DecidableEq, Repr

/-- What makes a request invalid. -/
inductive Fault where
  | missing (field : String)
  | notUuid (field value : String)
  | otherHold (holdId pathHoldId : String)
  deriving DecidableEq, Repr

/-- The wording of a fault. -/
def Fault.message : Fault → String
  | .missing field => field ++ " is required"
  | .notUuid field value => field ++ " is not a valid UUID: " ++ value
  | .otherHold holdId pathHoldId =>
    "holdId " ++ holdId ++ " does not match hold " ++ pathHoldId ++ " in the request path"

/-- Reads a field that must be a UUID. -/
def uuidField (field value : String) : Except Fault Uuid :=
  if Text.isBlank value then .error (.missing field)
  else match Uuid.read? value with
    | some u => .ok u
    | none => .error (.notUuid field value)

/-- The instant that a JSON document writes. -/
def instant? (d : Document) : Option Instant :=
  d.string?.bind Instant.read?

namespace Request

/-- The names of the fields. -/
def fieldNames : List String :=
  ["holdId", "cancellationReasonId", "canceledByUserId", "cancellationAdditionalInformation",
    "canceledDate"]

/-- The request that a JSON document writes; a field that is not given is empty. -/
def ofDocument? (d : Document) : Option Request := do
  match ← d.fields? fieldNames with
  | [holdId, reason, user, information, date] => do
    return {
      holdId := ← Document.withDefault? "" Document.string? holdId
      cancellationReasonId := ← Document.withDefault? "" Document.string? reason
      canceledByUserId := ← Document.withDefault? "" Document.string? user
      additionalInformation :=
        ← Document.withDefault? none (Document.optional? Document.string?) information
      canceledDate := ← Document.withDefault? none (Document.optional? instant?) date }
  | _ => none

/-- The JSON document that writes a request. -/
def toDocument (r : Request) : Document :=
  .record ([("holdId", .ofString r.holdId),
    ("cancellationReasonId", .ofString r.cancellationReasonId),
    ("canceledByUserId", .ofString r.canceledByUserId)] ++
    optionalMember "cancellationAdditionalInformation" r.additionalInformation ++
    optionalMember "canceledDate" (r.canceledDate.map Instant.write))

/-- Checks a request against the hold of a path. -/
def validate (r : Request) (pathHoldId : String) : Except Fault Unit := do
  let addressed ← uuidField "path holdId" pathHoldId
  let named ← uuidField "holdId" r.holdId
  let _ ← uuidField "cancellationReasonId" r.cancellationReasonId
  let _ ← uuidField "canceledByUserId" r.canceledByUserId
  if addressed = named then .ok () else .error (.otherHold r.holdId pathHoldId)

end Request
end Hold
end PatronGateway
