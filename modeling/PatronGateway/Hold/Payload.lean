import PatronGateway.Hold.Request

/-!
# What is submitted to cancel a hold

The payload joins what the stored hold says with what the client asks for.
-/

namespace PatronGateway
namespace Hold

open Json (Document)
open Time (Instant)

/-- What is submitted to cancel a hold. -/
structure Payload where
  requestId : String
  pickupLocationId : Option String
  requestDate : String
  cancellationReasonId : String
  canceledByUserId : String
  additionalInformation : Option String
  canceledDate : Instant
  deriving DecidableEq, Repr

namespace Payload

/-- Joins a stored hold and a request; a request without a date is dated now. -/
def merge (hold : Record) (request : Request) (now : Instant) : Payload where
  requestId := hold.id
  pickupLocationId := hold.pickupServicePointId
  requestDate := hold.requestDate
  cancellationReasonId := request.cancellationReasonId
  canceledByUserId := request.canceledByUserId
  additionalInformation := request.additionalInformation
  canceledDate := request.canceledDate.getD now

/-- The names of the fields. -/
def fieldNames : List String :=
  ["requestId", "pickupLocationId", "requestDate", "cancellationReasonId", "canceledByUserId",
    "cancellationAdditionalInformation", "canceledDate"]

/-- The payload that a JSON document writes. -/
def ofDocument? (d : Document) : Option Payload := do
  match ← d.fields? fieldNames with
  | [id, pickup, requestDate, reason, user, information, date] => do
    return {
      requestId := ← Document.required? Document.string? id
      pickupLocationId :=
        ← Document.withDefault? none (Document.optional? Document.string?) pickup
      requestDate := ← Document.required? Document.string? requestDate
      cancellationReasonId := ← Document.required? Document.string? reason
      canceledByUserId := ← Document.required? Document.string? user
      additionalInformation :=
        ← Document.withDefault? none (Document.optional? Document.string?) information
      canceledDate := ← Document.required? instant? date }
  | _ => none

/-- The JSON document that writes a payload. -/
def toDocument (p : Payload) : Document :=
  .record ([("requestId", .ofString p.requestId)] ++
    optionalMember "pickupLocationId" p.pickupLocationId ++
    [("requestDate", .ofString p.requestDate),
      ("cancellationReasonId", .ofString p.cancellationReasonId),
      ("canceledByUserId", .ofString p.canceledByUserId)] ++
    optionalMember "cancellationAdditionalInformation" p.additionalInformation ++
    [("canceledDate", .ofString p.canceledDate.write)])

end Payload
end Hold
end PatronGateway
