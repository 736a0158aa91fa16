import PatronGateway.Ini.Reader
import PatronGateway.Json.Reader
import PatronGateway.Json.Value
import PatronGateway.Json5.Reader
import PatronGateway.Ron.Reader
import PatronGateway.Toml.Reader
import PatronGateway.Yaml.Document

/-!
# Formats of settings

A file of settings is written in one of six formats, which goes by the extension of its
name.
-/

namespace PatronGateway
namespace Config

mutual

/-- The tree of settings that a JSON value writes. -/
def Tree.ofValue : Json.Value → Tree
  | .null => .nothing
  | .bool b => .truth b
  | .number (.natural n) => .integer n
  | .number (.negative n) => .integer (-(n : Int))
  | .number (.double d) => .real d
  | .string s => .text s
  | .array items => .list (treesOfValues items)
  | .object members => .table (membersOfValues members)

/-- The trees that several JSON values write. -/
def treesOfValues : List Json.Value → List Tree
  | [] => []
  | v :: rest => Tree.ofValue v :: treesOfValues rest

/-- The members that several members of a JSON value write. -/
def membersOfValues : List (String × Json.Value) → List (String × Tree)
  | [] => []
  | m :: rest => (m.1, Tree.ofValue m.2) :: membersOfValues rest

end

/-- A format of files. -/
inductive Format where
  | toml
  | json
  | yaml
  | ini
  | ron
  | json5
  deriving DecidableEq, Repr

namespace Format

/-- The extensions of names, and the formats they stand for. -/
def byExtension : List (String × Format) :=
  [("toml", toml), ("json", json), ("yaml", yaml), ("yml", yaml), ("ini", ini), ("ron", ron),
    ("json5", json5)]

/-- The format of a file whose name has an extension. -/
def ofExtension? (extension : String) : Option Format :=
  byExtension.lookup extension

/-- The tree that a text writes in a format. -/
def read? : Format → String → Option Tree
  | toml, text => Toml.read? text
  | json, text =>
    ((Json.Document.read? text).bind Json.Document.value?).map Tree.ofValue
  | yaml, text => Yaml.read? text
  | ini, text => Ini.read? text
  | ron, text => Ron.read? text
  | json5, text => Json5.read? text

end Format
end Config
end PatronGateway
