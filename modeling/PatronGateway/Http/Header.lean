import PatronGateway.Text.Utf8

/-!
# Header fields

Names are kept in lower case.  A value may hold any byte but the control
characters other than the tab; it is readable as a text where it is ASCII.
-/

namespace PatronGateway
namespace Http

/-- Whether a byte may stand in the value of a header field. -/
def isValueByte (b : UInt8) : Bool :=
  b.toNat == 9 || (0x20 ≤ b.toNat && b.toNat != 0x7F)

/-- Whether a text may be the value of a header field. -/
def isValue (s : String) : Bool := (Text.Utf8.encode s).all isValueByte

/-- Whether a byte of a value is readable. -/
def isReadableByte (b : UInt8) : Bool :=
  b.toNat == 9 || (0x20 ≤ b.toNat && b.toNat < 0x7F)

/-- The text of a value, if all of it is readable. -/
def readable? (bs : Bytes) : Option String :=
  if bs.all isReadableByte then Text.Utf8.decode? bs else none

/-- Header fields: names in lower case and their values, in the order in which
they were given. -/
abbrev Headers := List (String × String)

namespace Headers

/-- The first value of a name. -/
def first? (hs : Headers) (name : String) : Option String := hs.lookup name

/-- The first value of a name, if it is readable. -/
def text? (hs : Headers) (name : String) : Option String :=
  (hs.first? name).filter fun v => (Text.Utf8.encode v).all isReadableByte

/-- The fields without those of a name. -/
def remove (hs : Headers) (name : String) : Headers := hs.filter fun h => h.1 != name

/-- The fields with a name given one value, at the end. -/
def set (hs : Headers) (name value : String) : Headers := hs.remove name ++ [(name, value)]

end Headers
end Http
end PatronGateway
