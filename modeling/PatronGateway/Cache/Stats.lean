import PatronGateway.Cache.Bounded
import PatronGateway.Decimal.Double

/-!
# The hit rate

The share of the lookups that the cache could answer, in percent.
-/

namespace PatronGateway
namespace Cache
namespace Stats

/-- The lookups that the cache could answer. -/
def answered (s : Stats) : Nat := s.counters.hits + s.counters.absentHits

/-- All lookups. -/
def lookups (s : Stats) : Nat := s.answered + s.counters.misses

/-- The share of answered lookups in percent; zero before the first lookup. -/
def hitRate (s : Stats) : Decimal.Double :=
  if s.lookups = 0 then Decimal.Double.ofFloat 0.0
  else Decimal.Double.ofFloat (Float.ofNat s.answered / Float.ofNat s.lookups * 100.0)

/-- The hit rate with four decimal places. -/
def hitRateText (s : Stats) : String :=
  match s.hitRate.meaning with
  | .finite negative mantissa exponent =>
    String.ofList (Decimal.fixed 4 negative mantissa exponent)
  | _ => ""

end Stats
end Cache
end PatronGateway
