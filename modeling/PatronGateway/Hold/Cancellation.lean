import PatronGateway.Hold.Payload
import PatronGateway.Backend.Timing
import PatronGateway.Patron.RequestError

/-!
# Cancelling a hold

A cancellation is checked first; then the stored hold is fetched, joined with
the request and submitted.  Nothing is fetched for a request that is not valid,
and nothing is submitted unless the hold was fetched in time.  Whatever the
backend answers to the submission is the result.

The order of these steps is the same in every world that can fetch and submit; a
`Desk` says how its world does that.
-/

namespace PatronGateway
namespace Hold

open Time (Span Instant)
open Cache (Moment)
open Patron (RequestError)

/-- Checks a request on behalf of a patron. -/
def check (patronId pathHoldId : String) (request : Request) : Except RequestError Unit :=
  if Text.isBlank patronId then
    .error (.invalid "patron id is required")
  else
    match request.validate pathHoldId with
    | .ok () => .ok ()
    | .error f => .error (.invalid f.message)

/-- The error of a hold that could not be fetched. -/
def fetchError (holdId : String) : Backend.Error → RequestError
  | .notFound => .holdNotFound holdId
  | .timeout => .timeout "hold lookup"
  | e => .ofBackend e

/-- The error of a submission that got no answer. -/
def submitError : Backend.Error → RequestError
  | .timeout => .timeout "hold cancellation"
  | e => .backend e.message

/-- A submission: whose hold is cancelled, and with what. -/
structure Submission where
  tenant : String
  patronId : String
  holdId : String
  payload : Payload
  deriving DecidableEq, Repr

/-- What a cancellation needs of a world of some type: the date, the stored holds,
and somebody who takes submissions. -/
structure Desk (W : Type) where
  dateIn : W → Instant
  fetch : W → String → String → Except Backend.Error Record × W
  submit : W → Submission → Except Backend.Error Backend.Answer × W

/-- Cancels a hold in a world. -/
def Desk.cancel {W : Type} (d : Desk W) (w : W) (tenant patronId holdId : String)
    (request : Request) : Except RequestError Backend.Answer × W :=
  match check patronId holdId request with
  | .error e => (.error e, w)
  | .ok () =>
    match d.fetch w tenant holdId with
    | (.error e, w) => (.error (fetchError holdId e), w)
    | (.ok hold, w) =>
      match d.submit w ⟨tenant, patronId, holdId, Payload.merge hold request (d.dateIn w)⟩ with
      | (r, w) => (r.mapError submitError, w)

/-- What has happened in a cancellation so far: what was fetched and submitted,
and the moment that it is now. -/
structure Trace where
  now : Moment
  fetched : List (String × String)
  submitted : List Submission

/-- The world in which the fetch and the submission take given courses under a
limit.  `dateAt` gives the date at a moment of the clock. -/
def Desk.foreseen (dateAt : Moment → Instant) (limit : Span) (fetch : Backend.Call Record)
    (submit : Backend.Call Backend.Answer) : Desk Trace where
  dateIn t := dateAt t.now
  fetch t tenant holdId :=
    (fetch.result limit,
      { t with now := t.now + fetch.elapsed limit, fetched := t.fetched ++ [(tenant, holdId)] })
  submit t s :=
    (submit.result limit,
      { t with now := t.now + submit.elapsed limit, submitted := t.submitted ++ [s] })

/-- Cancels a hold, with the courses that the fetch and the submission would
take, and tells what has happened. -/
def cancel (dateAt : Moment → Instant) (limit : Span) (tenant patronId holdId : String)
    (request : Request) (fetch : Backend.Call Record) (submit : Backend.Call Backend.Answer)
    (now : Moment) : Except RequestError Backend.Answer × Trace :=
  (Desk.foreseen dateAt limit fetch submit).cancel ⟨now, [], []⟩ tenant patronId holdId request

end Hold
end PatronGateway
