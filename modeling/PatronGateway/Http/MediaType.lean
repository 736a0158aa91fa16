import PatronGateway.Text.Utf8

/-!
# Media types

A media type is two names with a slash between them, behind which there may be
parameters, each behind a semicolon.  The value of a parameter is a bare word or
stands in quotes, between which a backslash has no meaning of its own.  One fault
anywhere, and the text is no media type and has no parameters at all.
-/

namespace PatronGateway
namespace Http
namespace MediaType

/-- Characters of a name. -/
def isNameChar (c : Char) : Bool :=
  c.isAlphanum || "!#$%&\x27*+-.^_\x60|~".toList.contains c

/-- Characters between quotes. -/
def isQuotedChar (c : Char) : Bool :=
  c == '\t' || (0x20 ≤ c.toNat && c.toNat != 0x7F)

/-- Where reading stands among parameters: in a name, in a value of one of the two
kinds, or behind the closing quote of a value. -/
inductive Place where
  | name (reversed : List Char)
  | bare (name : String) (reversed : List Char)
  | quoted (name : String) (reversed : List Char)
  | behind

/-- What has been read so far: the place, and the parameters in reverse. -/
structure Progress where
  place : Place
  reversed : List (String × String)

namespace Progress

/-- Adds a parameter.  Its name counts in lower case. -/
def add (p : Progress) (place : Place) (name : String) (reversedValue : List Char) : Progress :=
  let lowered := String.ofList (name.toList.map Char.toLower)
  ⟨place, (lowered, String.ofList reversedValue.reverse) :: p.reversed⟩

/-- Reads one character, if it may stand there.  A value that would be empty is not
ended, be it by a semicolon or by a quote. -/
def feed? (p : Progress) (c : Char) : Option Progress :=
  match p.place with
  | .name cs =>
    if c = ' ' && cs.isEmpty then some p
    else if isNameChar c then some { p with place := .name (c :: cs) }
    else if c = '=' && !cs.isEmpty then
      some { p with place := .bare (String.ofList cs.reverse) [] }
    else none
  | .bare name cs =>
    if c = '"' && cs.isEmpty then some { p with place := .quoted name [] }
    else if isNameChar c then some { p with place := .bare name (c :: cs) }
    else if c = ';' && !cs.isEmpty then some (p.add (.name []) name cs)
    else none
  | .quoted name cs =>
    if c = '"' && !cs.isEmpty then some (p.add .behind name cs)
    else if isQuotedChar c then some { p with place := .quoted name (c :: cs) }
    else none
  | .behind =>
    if c = ';' then some { p with place := .name [] }
    else if c = ' ' then some p
    else none

/-- Ends the reading, where it may end. -/
def finish? (p : Progress) : Option (List (String × String)) :=
  match p.place with
  | .name [] | .behind => some p.reversed.reverse
  | .bare name cs => some (p.add .behind name cs).reversed.reverse
  | _ => none

end Progress

/-- The parameters of a media type, from the first to the last. -/
def parameters? (text : String) : Option (List (String × String)) :=
  match text.toList.span isNameChar with
  | (_ :: _, '/' :: rest) =>
    match rest.span isNameChar with
    | (_, []) => some []
    | (_ :: _, ';' :: rest) => (rest.foldlM Progress.feed? ⟨.name [], []⟩).bind Progress.finish?
    | _ => none
  | _ => none

end MediaType
end Http
end PatronGateway
