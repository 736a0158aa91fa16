import PatronGateway.Log.Level

/-!
# Events

An event has a level, the part of the program that it comes from, a message, and
fields that go with the message.  The message counts as a field of its own when
somebody asks which fields an event has.
-/

namespace PatronGateway
namespace Log

/-- A field of an event: its name, and its value as a line shows it. -/
structure Field where
  name : String
  shown : String
  deriving DecidableEq, Repr

/-- How a field stands on a line. -/
def Field.text (f : Field) : String :=
  f.name ++ "=" ++ f.shown

/-- Something that is worth a line. -/
structure Event where
  level : Level
  source : String
  message : String
  fields : List Field := []
  deriving DecidableEq, Repr

namespace Event

/-- The line of an event, its fields behind the message. -/
def line (e : Event) : String :=
  e.level.name.toUpper ++ " " ++ e.source ++ ": " ++
    String.intercalate " " (e.message :: e.fields.map Field.text)

/-- The names of the fields. -/
def fieldNames (e : Event) : List String :=
  "message" :: e.fields.map Field.name

end Event
end Log
end PatronGateway
