import PatronGateway.Log.Filter
import PatronGateway.Time.Epoch

/-!
# Lines of a log

An event is written on a line with the instant at which it happened, to the
microsecond, and with its level, which takes the same room on every line.
-/

namespace PatronGateway
namespace Log

open Time (Instant)

/-- An instant in UTC as a log shows it. -/
def stamp (t : Instant) : String :=
  String.ofList
    (({ t with nanosecond := 0 } : Instant).toChars.dropLast ++
      '.' :: Instant.padded 6 (t.nanosecond / 1000) ++ ['Z'])

/-- The line of an event that happened at some instant. -/
def Event.lineAt (e : Event) (t : Instant) : String :=
  let room := String.ofList (List.replicate (5 - e.level.name.length) ' ')
  stamp t ++ " " ++ room ++ e.line

end Log
end PatronGateway
