/-!
# Levels of a log

How much is written to a log, from everything to nothing.
-/

namespace PatronGateway
namespace Log

/-- How much is written to a log, or how much an event matters. -/
inductive Level where
  | trace
  | debug
  | info
  | warn
  | error
  | off
  deriving DecidableEq, Repr

namespace Level

/-- All levels, the most talkative first. -/
def all : List Level :=
  [.trace, .debug, .info, .warn, .error, .off]

/-- The name of a level. -/
def name : Level → String
  | trace => "trace"
  | debug => "debug"
  | info => "info"
  | warn => "warn"
  | error => "error"
  | off => "off"

/-- The level of a name, in letters of either case. -/
def ofName? (text : String) : Option Level :=
  all.find? fun l => l.name == text.toLower

/-- How much a level leaves out. -/
def severity : Level → Nat
  | trace => 0
  | debug => 1
  | info => 2
  | warn => 3
  | error => 4
  | off => 5

/-- Whether a log at one level shows an event of another. -/
def shows (threshold event : Level) : Bool :=
  threshold.severity ≤ event.severity

end Level
end Log
end PatronGateway
