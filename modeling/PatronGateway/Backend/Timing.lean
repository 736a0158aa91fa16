import PatronGateway.Backend.Answer
import PatronGateway.Time.Span
import PatronGateway.Cache.Bounded

/-!
# Timed calls

A call takes some nanoseconds and then has an outcome.  A limit cuts a call
off that would take longer; one that takes exactly the limit still counts.
-/

namespace PatronGateway
namespace Backend

open Time (Span)
open Cache (Moment)

/-- A call: how many nanoseconds it takes, and what comes out of it. -/
structure Call (α : Type) where
  delay : Nat
  outcome : Except Error α

namespace Call

variable {α : Type}

/-- Whether a call ends within a limit. -/
def inTime (c : Call α) (limit : Span) : Bool :=
  c.delay ≤ limit.nanoseconds

/-- The outcome of a call under a limit. -/
def result (c : Call α) (limit : Span) : Except Error α :=
  if c.inTime limit then c.outcome else .error .timeout

/-- How many nanoseconds pass until a call under a limit is over. -/
def elapsed (c : Call α) (limit : Span) : Nat :=
  min c.delay limit.nanoseconds

end Call
end Backend
end PatronGateway
