import PatronGateway.Hold.Cancellation

/-!
# The protocol of a cancellation

A cancellation that is refused at the desk never reaches the backend.  Any other one fetches
the hold once, and submits once if and only if the hold arrives in time.

* `Desk.cancel_of_refused`, `Desk.cancel_of_fetch_error` and `Desk.cancel_of_fetch` say what a
  cancellation does in any world that can fetch and submit.
* `cancel_follows_protocol` says what follows for every course of the fetch and of the
  submission, under any limit.
-/

namespace PatronGateway
namespace Backend

open Time (Span)

namespace Call

variable {α : Type} {c : Call α} {limit : Span}

/-- A call is punctual if it takes no longer than the limit. -/
def Punctual (c : Call α) (limit : Span) : Prop :=
  c.delay ≤ limit.nanoseconds

theorem inTime_iff : c.inTime limit = true ↔ c.Punctual limit := decide_eq_true_iff

theorem result_of_punctual (h : c.Punctual limit) : c.result limit = c.outcome :=
  if_pos (inTime_iff.mpr h)

theorem result_of_late (h : ¬ c.Punctual limit) : c.result limit = .error .timeout :=
  if_neg fun hin => h (inTime_iff.mp hin)

theorem elapsed_of_punctual (h : c.Punctual limit) : c.elapsed limit = c.delay :=
  Nat.min_eq_left (of_decide_eq_true (inTime_iff.mpr h))

/-- A call under a limit gives a value just if it does so in time. -/
theorem result_eq_ok_iff {a : α} :
    c.result limit = .ok a ↔ c.Punctual limit ∧ c.outcome = .ok a := by
  by_cases h : c.Punctual limit
  · rw [result_of_punctual h]
    exact ⟨fun hok => ⟨h, hok⟩, And.right⟩
  · rw [result_of_late h]
    exact iff_of_false (by simp) fun hok => h hok.1

end Call
end Backend

namespace Hold

open Backend (Answer Call)
open Cache (Moment)
open Patron (RequestError)
open Time (Instant Span)

/-- What is refused at the desk: a cancellation for a blank patron, or a request that is not
valid for the hold of the path. -/
def Refused (patronId pathHoldId : String) (request : Request) : Prop :=
  Text.isBlank patronId = true ∨ ∃ f, request.validate pathHoldId = .error f

/-- What is refused is said to be invalid; everything else passes. -/
theorem check_cases (patronId pathHoldId : String) (request : Request) :
    (Refused patronId pathHoldId request ∧
      ∃ message, check patronId pathHoldId request = .error (.invalid message)) ∨
    (¬ Refused patronId pathHoldId request ∧ check patronId pathHoldId request = .ok ()) := by
  unfold check Refused
  by_cases hblank : Text.isBlank patronId = true
  · rw [if_pos hblank]
    exact Or.inl ⟨Or.inl hblank, _, rfl⟩
  · rw [if_neg hblank]
    cases hvalid : request.validate pathHoldId with
    | error f => exact Or.inl ⟨Or.inr ⟨f, rfl⟩, _, rfl⟩
    | ok _ =>
        refine Or.inr ⟨?_, rfl⟩
        rintro (hblank' | ⟨f, hfault⟩)
        · exact hblank hblank'
        · cases hfault

namespace Desk

variable {W : Type} {d : Desk W} {w w' : W} {tenant patronId holdId : String} {request : Request}

/-- A refused cancellation leaves the world as it is. -/
theorem cancel_of_refused {e : RequestError} (h : check patronId holdId request = .error e) :
    d.cancel w tenant patronId holdId request = (.error e, w) := by
  unfold cancel
  rw [h]

/-- Nothing is submitted where the hold cannot be fetched. -/
theorem cancel_of_fetch_error {e : Backend.Error} (h : check patronId holdId request = .ok ())
    (hfetch : d.fetch w tenant holdId = (.error e, w')) :
    d.cancel w tenant patronId holdId request = (.error (fetchError holdId e), w') := by
  unfold cancel
  rw [h]
  dsimp only
  rw [hfetch]

/-- Where the hold is fetched, the submission joins it with the request, and its answer is
the result. -/
theorem cancel_of_fetch {hold : Record} (h : check patronId holdId request = .ok ())
    (hfetch : d.fetch w tenant holdId = (.ok hold, w')) :
    d.cancel w tenant patronId holdId request =
      let submitted := d.submit w'
        ⟨tenant, patronId, holdId, Payload.merge hold request (d.dateIn w')⟩
      (submitted.1.mapError submitError, submitted.2) := by
  unfold cancel
  rw [h]
  dsimp only
  rw [hfetch]

end Desk

/-- No failed fetch and no failed submission is said to be invalid. -/
theorem fetchError_ne_invalid (holdId message : String) (e : Backend.Error) :
    fetchError holdId e ≠ .invalid message := by
  cases e <;> simp [fetchError, RequestError.ofBackend]

theorem submitError_ne_invalid (message : String) (e : Backend.Error) :
    submitError e ≠ .invalid message := by
  cases e <;> simp [submitError]

theorem submitError_of_ne_timeout {e : Backend.Error} (h : e ≠ .timeout) :
    submitError e = .backend e.message := by
  cases e with
  | timeout => exact absurd rfl h
  | notFound => rfl
  | status a => rfl
  | transport m => rfl
  | decode m => rfl

section

variable {dateAt : Moment → Instant} {limit : Span} {tenant patronId holdId : String}
  {request : Request} {fetch : Call Record} {submit : Call Answer} {now : Moment}

/-- A submission gives just the answers that come in time, as they are. -/
theorem submission_eq_ok_iff {a : Answer} :
    (submit.result limit).mapError submitError = .ok a ↔
      submit.Punctual limit ∧ submit.outcome = .ok a := by
  rw [← Call.result_eq_ok_iff]
  cases submit.result limit with
  | error e => exact iff_of_false (fun h => by cases h) (fun h => by cases h)
  | ok b =>
      -- the errors are of different types on both sides, the answers are not
      exact ⟨fun h => congrArg Except.ok (Except.ok.inj h),
        fun h => congrArg Except.ok (Except.ok.inj h)⟩

/-- A hold that cannot be fetched under the limit ends a cancellation. -/
theorem cancel_of_result_error {e : Backend.Error} (h : check patronId holdId request = .ok ())
    (hfetch : fetch.result limit = .error e) :
    cancel dateAt limit tenant patronId holdId request fetch submit now =
      (.error (fetchError holdId e), ⟨now + fetch.elapsed limit, [(tenant, holdId)], []⟩) :=
  Desk.cancel_of_fetch_error h (by rw [← hfetch]; rfl)

/-- A hold that arrives in time is joined with the request on the date of its arrival. -/
theorem cancel_of_punctual {hold : Record} (h : check patronId holdId request = .ok ())
    (hin : fetch.Punctual limit) (hfetch : fetch.outcome = .ok hold) :
    cancel dateAt limit tenant patronId holdId request fetch submit now =
      ((submit.result limit).mapError submitError,
        ⟨now + fetch.delay + submit.elapsed limit, [(tenant, holdId)],
          [⟨tenant, patronId, holdId,
            Payload.merge hold request (dateAt (now + fetch.delay))⟩]⟩) := by
  have hresult : fetch.result limit = .ok hold := Call.result_eq_ok_iff.mpr ⟨hin, hfetch⟩
  rw [← Call.elapsed_of_punctual hin]
  exact (Desk.cancel_of_fetch h (by rw [← hresult]; rfl)).trans rfl

/-- What the backend is asked in a cancellation that passes the desk: for the hold once, and
for the cancellation once just if the hold has arrived in time. -/
theorem calls_of_accepted (h : check patronId holdId request = .ok ()) :
    let t := (cancel dateAt limit tenant patronId holdId request fetch submit now).2
    t.fetched = [(tenant, holdId)] ∧ t.submitted.length ≤ 1 ∧
      (t.submitted.length = 1 ↔ fetch.Punctual limit ∧ ∃ hold, fetch.outcome = .ok hold) := by
  cases hfetch : fetch.result limit with
  | error e =>
      rw [cancel_of_result_error h hfetch]
      refine ⟨rfl, Nat.zero_le 1, iff_of_false (by simp) ?_⟩
      rintro ⟨hin, hold, hhold⟩
      rw [Call.result_eq_ok_iff.mpr ⟨hin, hhold⟩] at hfetch
      cases hfetch
  | ok hold =>
      obtain ⟨hin, hhold⟩ := Call.result_eq_ok_iff.mp hfetch
      rw [cancel_of_punctual h hin hhold]
      exact ⟨rfl, Nat.le_refl 1, iff_of_true rfl ⟨hin, hold, hhold⟩⟩

/-- Only what is refused at the desk is said to be invalid. -/
theorem refused_of_invalid {message : String}
    (h : (cancel dateAt limit tenant patronId holdId request fetch submit now).1 =
      .error (.invalid message)) : Refused patronId holdId request := by
  rcases check_cases patronId holdId request with ⟨hrefused, -⟩ | ⟨-, hcheck⟩
  · exact hrefused
  · cases hfetch : fetch.result limit with
    | error e =>
        rw [cancel_of_result_error hcheck hfetch] at h
        exact absurd (Except.error.inj h) (fetchError_ne_invalid holdId message e)
    | ok hold =>
        obtain ⟨hin, hhold⟩ := Call.result_eq_ok_iff.mp hfetch
        rw [cancel_of_punctual hcheck hin hhold] at h
        cases hsubmit : submit.result limit with
        | error e =>
            rw [hsubmit] at h
            exact absurd (Except.error.inj h) (submitError_ne_invalid message e)
        | ok a =>
            rw [hsubmit] at h
            cases h

end

/-- What a cancellation does, whatever the courses of the fetch and of the submission are.

It is refused as invalid just where the patron is blank or the request is not valid for the
hold of the path, and then nothing is fetched or submitted.  Any other cancellation fetches
the hold of the path once and for the tenant; it submits just if the hold arrives in time, and
never twice.  The rest says what comes of a fetch that is late or fails, what is submitted,
and what comes of the submission: an answer in time is the result as it is. -/
theorem cancel_follows_protocol (dateAt : Moment → Instant) (limit : Span)
    (tenant patronId holdId : String) (request : Request) (fetch : Call Record)
    (submit : Call Answer) (now : Moment) :
    let r := cancel dateAt limit tenant patronId holdId request fetch submit now
    ((∃ message, r.1 = .error (.invalid message)) ↔ Refused patronId holdId request) ∧
    (Refused patronId holdId request → r.2.fetched = [] ∧ r.2.submitted = []) ∧
    (¬ Refused patronId holdId request →
      r.2.fetched = [(tenant, holdId)] ∧
      r.2.submitted.length ≤ 1 ∧
      (r.2.submitted.length = 1 ↔
        fetch.Punctual limit ∧ ∃ hold, fetch.outcome = .ok hold) ∧
      (¬ fetch.Punctual limit → r.1 = .error (.timeout "hold lookup")) ∧
      (fetch.Punctual limit →
        (fetch.outcome = .error .notFound → r.1 = .error (.holdNotFound holdId)) ∧
        (∀ a, fetch.outcome = .error (.status a) → r.1 = .error (.upstream a)) ∧
        (fetch.outcome = .error .timeout → r.1 = .error (.timeout "hold lookup")) ∧
        (∀ m, fetch.outcome = .error (.transport m) → r.1 = .error (.backend m)) ∧
        (∀ m, fetch.outcome = .error (.decode m) → r.1 = .error (.backend m)) ∧
        ∀ hold, fetch.outcome = .ok hold →
          r.2.submitted = [{
            tenant := tenant, patronId := patronId, holdId := holdId,
            payload := {
              requestId := hold.id
              pickupLocationId := hold.pickupServicePointId
              requestDate := hold.requestDate
              cancellationReasonId := request.cancellationReasonId
              canceledByUserId := request.canceledByUserId
              additionalInformation := request.additionalInformation
              canceledDate := request.canceledDate.getD (dateAt (now + fetch.delay)) } }] ∧
          (∀ a, r.1 = .ok a ↔ submit.Punctual limit ∧ submit.outcome = .ok a) ∧
          (¬ submit.Punctual limit → r.1 = .error (.timeout "hold cancellation")) ∧
          (submit.Punctual limit →
            (submit.outcome = .error .timeout → r.1 = .error (.timeout "hold cancellation")) ∧
            ∀ e, submit.outcome = .error e → e ≠ .timeout →
              r.1 = .error (.backend e.message)))) := by
  intro r
  rcases check_cases patronId holdId request with ⟨hrefused, message, hcheck⟩ | ⟨haccepted, hcheck⟩
  · have hr : r = (.error (.invalid message), ⟨now, [], []⟩) := Desk.cancel_of_refused hcheck
    rw [hr]
    exact ⟨iff_of_true ⟨message, rfl⟩ hrefused, fun _ => ⟨rfl, rfl⟩, fun h => absurd hrefused h⟩
  · have hfailed : ∀ e, fetch.result limit = .error e → r.1 = .error (fetchError holdId e) :=
      fun e he => congrArg Prod.fst (cancel_of_result_error hcheck he)
    have hcalls : r.2.fetched = [(tenant, holdId)] ∧ r.2.submitted.length ≤ 1 ∧
        (r.2.submitted.length = 1 ↔ fetch.Punctual limit ∧ ∃ hold, fetch.outcome = .ok hold) :=
      calls_of_accepted hcheck
    refine ⟨⟨?_, fun h => absurd h haccepted⟩, fun h => absurd h haccepted, fun _ => ?_⟩
    · rintro ⟨message, hinvalid⟩
      exact refused_of_invalid hinvalid
    · refine ⟨hcalls.1, hcalls.2.1, hcalls.2.2, ?_, ?_⟩
      -- a fetch that is late counts as a failure, whatever it would have brought
      · exact fun hlate => hfailed .timeout (Call.result_of_late hlate)
      · intro hin
        have hresult := Call.result_of_punctual hin
        refine ⟨?_, ?_, ?_, ?_, ?_, ?_⟩
        · exact fun he => hfailed .notFound (hresult.trans he)
        · exact fun a he => hfailed (.status a) (hresult.trans he)
        · exact fun he => hfailed .timeout (hresult.trans he)
        · exact fun m he => hfailed (.transport m) (hresult.trans he)
        · exact fun m he => hfailed (.decode m) (hresult.trans he)
        -- from here on only the submission decides
        · intro hold hhold
          have hr : r = _ := cancel_of_punctual hcheck hin hhold
          rw [hr]
          refine ⟨rfl, ?_, ?_, ?_⟩
          · exact fun a => submission_eq_ok_iff
          · intro hlate
            rw [Call.result_of_late hlate]
            rfl
          · intro hin'
            rw [Call.result_of_punctual hin']
            refine ⟨fun he => ?_, fun e he hne => ?_⟩
            · rw [he]
              rfl
            · rw [he]
              exact congrArg Except.error (submitError_of_ne_timeout hne)

end Hold
end PatronGateway
