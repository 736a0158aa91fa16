import PatronGateway.Text.Split

/-!
# Directories

The files of a directory, and what is found there at a path.  A path goes down
through directories by their names and up by `..`; it may also leave the directory,
and of what lies outside only little is known: that the directories above are there,
and a few places that every machine has.
-/

namespace PatronGateway
namespace Config

/-- Where a path sets out: so many directories above the directory, or at the root of
the machine. -/
inductive Origin where
  | above (levels : Nat)
  | root
  deriving DecidableEq, Repr

/-- A place on the machine: where the way sets out, and the names on it. -/
structure Place where
  origin : Origin
  names : List (List Char)
  deriving DecidableEq, Repr

namespace Place

/-- The directory itself. -/
def here : Place :=
  ⟨.above 0, []⟩

/-- The directory above a place. -/
def parent (p : Place) : Place :=
  match p.origin, p.names with
  | .above n, [] => ⟨.above (n + 1), []⟩
  | origin, names => ⟨origin, names.dropLast⟩

/-- A place one step from another one, as a part of a path names it. -/
def step (p : Place) (part : List Char) : Place :=
  if part.isEmpty ∨ part = ['.'] then p
  else if part = ['.', '.'] then p.parent
  else { p with names := p.names ++ [part] }

/-- Where the way of a path sets out, and the parts of the path. -/
def setOut (path : List Char) : Place × List (List Char) :=
  match path with
  | '/' :: rest => (⟨.root, []⟩, Text.splitOn '/' rest)
  | path => (here, Text.splitOn '/' path)

/-- The place at the end of a path. -/
def ofPath (path : List Char) : Place :=
  (setOut path).2.foldl step (setOut path).1

/-- Whether a place lies within another one. -/
def isWithin (p q : Place) : Bool :=
  p.origin == q.origin && q.names.isPrefixOf p.names && p != q

/-- A place next to another one, with an extension behind its name. -/
def extended (p : Place) (extension : String) : Place :=
  match p.names.getLast? with
  | some name => { p with names := p.names.dropLast ++ [name ++ '.' :: extension.toList] }
  | none => p

end Place

/-- Directories that every machine has. -/
def commonDirectories : List String :=
  ["/bin", "/dev", "/dev/pts", "/dev/shm", "/etc", "/home", "/lib", "/media", "/mnt", "/opt",
    "/proc", "/proc/self", "/root", "/run", "/sbin", "/srv", "/sys", "/tmp", "/usr", "/usr/bin",
    "/usr/lib", "/usr/local", "/usr/local/bin", "/usr/sbin", "/usr/share", "/var", "/var/lib",
    "/var/log", "/var/tmp"]

/-- What else every machine has, none of it a file with settings. -/
def commonFiles : List String :=
  ["/bin/sh", "/dev/full", "/dev/null", "/dev/random", "/dev/stderr", "/dev/stdin",
    "/dev/stdout", "/dev/tty", "/dev/urandom", "/dev/zero", "/etc/group", "/etc/hostname",
    "/etc/hosts", "/etc/passwd", "/etc/resolv.conf", "/proc/cpuinfo", "/proc/meminfo",
    "/proc/self/cmdline", "/proc/self/environ", "/proc/self/status", "/proc/version"]

/-- The texts of the files of a directory, by their paths in it. -/
abbrev Directory := List (String × String)

namespace Directory

/-- What a directory holds at a path. -/
inductive Entry where
  | file (name : List Char) (text : String)
  | directory
  | other
  deriving Repr

/-- The file at a place. -/
def file? (d : Directory) (p : Place) : Option Entry :=
  match List.find? (fun f => Place.ofPath f.1.toList == p) d with
  | some f => some (.file (p.names.getLast?.getD []) f.2)
  | none => none

/-- Whether there is a directory at a place. -/
def isDirectory (d : Directory) (p : Place) : Bool :=
  p.names.isEmpty || List.any d (fun f => (Place.ofPath f.1.toList).isWithin p) ||
    commonDirectories.any fun path => Place.ofPath path.toList == p

/-- Walks from a place; only a directory can be walked through. -/
def walk? (d : Directory) (p : Place) : List (List Char) → Option Place
  | [] => some p
  | part :: rest => if d.isDirectory p then walk? d (p.step part) rest else none

/-- What is found at a path, if anything. -/
def entry? (d : Directory) (path : String) : Option Entry :=
  if path.isEmpty then none
  else do
    let (start, parts) := Place.setOut path.toList
    let p ← d.walk? start parts
    match d.file? p with
    | some f => return f
    | none =>
      if d.isDirectory p then return .directory
      else if commonFiles.any fun f => Place.ofPath f.toList == p then return .other
      else none

/-- Whether the last name on a path leads downward. -/
def endsInName (path : String) : Bool :=
  match ((Place.setOut path.toList).2.filter fun c => !c.isEmpty && c != ['.']).getLast? with
  | some part => part != ['.', '.']
  | none => false

/-- The file that a path means although it names a directory: the first one next to it
that differs by one of some extensions. -/
def besides? (d : Directory) (path : String) (extensions : List String) : Option Entry :=
  if endsInName path then
    extensions.findSome? fun e => d.file? ((Place.ofPath path.toList).extended e)
  else none

end Directory

/-- What follows the last point of a name, unless the name begins with it. -/
def extension? (name : List Char) : Option String :=
  match Text.splitLast? '.' name with
  | some (_ :: _, after) => some (String.ofList after)
  | _ => none

end Config
end PatronGateway
