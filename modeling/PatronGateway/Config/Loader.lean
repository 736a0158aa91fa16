import PatronGateway.Config.Basic
import PatronGateway.Config.Directory
import PatronGateway.Config.Environment
import PatronGateway.Config.Format

/-!
# Loading a configuration

A configuration is made of a file, if there is one, and of the environment, which
is laid over the file.  The format of a file goes by the end of its name.  A file
that is missing says nothing; a file that cannot be read is an error, and so are
settings of the wrong kind and a configuration with a fault.
-/

namespace PatronGateway
namespace Config

/-- A text without the mark that tells the order of its bytes. -/
def withoutMark (text : String) : String :=
  match text.toList with
  | c :: rest => if c.toNat = 0xFEFF then String.ofList rest else text
  | [] => text

/-- Why no configuration was loaded. -/
inductive LoadError where
  | unreadable (detail : String)
  | wrongKind
  | invalid (fault : Fault)
  deriving DecidableEq, Repr

/-- The wording of an error. -/
def LoadError.message : LoadError → String
  | unreadable detail => "config build error: " ++ detail
  | wrongKind => "config deserialize error: a setting has the wrong type"
  | invalid fault => fault.message

/-- The file that is read if no other one is named. -/
def defaultPath : String :=
  "patron-edge.toml"

/-- The file that a path means, if there is anything; a path of something that is no file
may mean a file next to it. -/
def fileAt? (d : Directory) (path : String) : Option Directory.Entry :=
  match d.entry? path with
  | some .directory | some .other =>
    (d.besides? path (Format.byExtension.map Prod.fst)).orElse fun _ => some .other
  | found => found

/-- The settings of a file; a file that is not there has none. -/
def fileSettings (d : Directory) (path : String) : Except LoadError (List (String × Tree)) :=
  match fileAt? d path with
  | none => .ok []
  | some (.file name text) =>
    match (extension? name).bind Format.ofExtension? with
    | none => .error (.unreadable (path ++ " is not of a known format"))
    | some format =>
      match format.read? (withoutMark text) with
      | some (.table ms) => .ok ms
      | some _ => .error (.unreadable (path ++ " is not a table"))
      | none => .error (.unreadable (path ++ " is malformed"))
  | some _ => .error (.unreadable (path ++ " is not a file"))

/-- The tree of everything that is set. -/
def gather (file : List (String × Tree)) (vs : Variables) : Tree :=
  Tree.putAll vs.settings (Tree.putAll file (.table []))

/-- The configuration that everything that is set makes. -/
def ofTree (t : Tree) : Except LoadError Config :=
  match (read? t : Option Config) with
  | none => .error .wrongKind
  | some c =>
    match c.fault? with
    | some fault => .error (.invalid fault)
    | none => .ok c

/-- Loads the configuration from a file and the environment. -/
def load (d : Directory) (vs : Variables) (path : Option String) : Except LoadError Config :=
  match fileSettings d (path.getD defaultPath) with
  | .error e => .error e
  | .ok file => ofTree (gather file vs)

end Config
end PatronGateway
