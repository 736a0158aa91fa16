import PatronGateway.Config.Path
import PatronGateway.Text.Split

/-!
# Settings in the environment

A variable `PATRON_EDGE__SERVER__PORT` sets what a file calls `server.port`.  The
name is taken without regard to case, and two underscores stand for the step into
a table.  What looks like a truth value, an integer of 64 bits or a double becomes
one, so that a text which looks like a number is not kept letter by letter.
-/

namespace PatronGateway
namespace Config

open Decimal (Double)

/-- The names and the texts of environment variables. -/
abbrev Variables := List (String × String)

namespace Variables

/-- A letter in lower case, as far as the lower case lies in ASCII. -/
def lowerChar (c : Char) : Char :=
  if c.toNat = 0x212A then 'k' else c.toLower

/-- What the names of variables that set something begin with. -/
def lead : List Char :=
  "patron_edge__".toList

/-- Puts a point for every two underscores. -/
def dotted : List Char → List Char
  | '_' :: '_' :: rest => '.' :: dotted rest
  | c :: rest => c :: dotted rest
  | [] => []

/-- The text of the path that the name of a variable stands for, if it sets
something. -/
def pathText? (name : String) : Option String :=
  (Text.dropLead? lead (name.toList.map lowerChar)).map fun cs => String.ofList (dotted cs)

/-- What the text of a variable looks like. -/
def guess (text : String) : Tree :=
  match text.toLower with
  | "true" => .truth true
  | "false" => .truth false
  | _ =>
    match Tree.integer64? text.toList with
    | some i => .integer i
    | none =>
      match Double.read? text.toList with
      | some d => .real d
      | none => .text text

/-- The settings of the environment, by the texts of their paths; of several
variables for one path the last one counts. -/
def settings (vs : Variables) : List (String × Tree) :=
  vs.foldl (fun found v =>
    match pathText? v.1 with
    | some path => Tree.setMember path (guess v.2) found
    | none => found) []

end Variables
end Config
end PatronGateway
