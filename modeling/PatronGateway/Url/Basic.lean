import PatronGateway.Url.Host

/-!
# URLs

A URL after it has been read: the scheme in lower case, every part escaped as it
is written.  The path is empty or a row of segments, each behind a slash, or, for a
URL that cannot be a base, a text without structure.
-/

namespace PatronGateway

/-- The path of a URL. -/
inductive Url.Path where
  | rooted (text : List Char)
  | unstructured (text : List Char)
  deriving DecidableEq, Repr

/-- A URL.  Where there is no host, a guard may keep the path apart from the scheme, so
that two slashes at its beginning are not taken for those before a host. -/
structure Url where
  scheme : List Char
  username : List Char
  password : Option (List Char)
  host : Option Url.Host
  port : Option Nat
  guarded : Bool
  path : Url.Path
  query : Option (List Char)
  fragment : Option (List Char)
  deriving DecidableEq, Repr

namespace Url

/-- The schemes with rules of their own, and their default ports. -/
def defaultPort? (scheme : List Char) : Option Nat :=
  match String.ofList scheme with
  | "http" => some 80
  | "https" => some 443
  | "ws" => some 80
  | "wss" => some 443
  | "ftp" => some 21
  | _ => none

/-- Whether a scheme is that of local files. -/
def isFile (scheme : List Char) : Bool := scheme == "file".toList

/-- Whether a scheme has rules of its own. -/
def isSpecial (scheme : List Char) : Bool :=
  isFile scheme || (defaultPort? scheme).isSome

/-- Whether segments can be added to the path. -/
def canBeBase (u : Url) : Bool :=
  match u.path with
  | .rooted _ => true
  | .unstructured _ => false

/-- The characters of a path. -/
def Path.toChars : Path → List Char
  | .rooted text => text
  | .unstructured text => text

/-- The segments of a path that has some. -/
def Path.segments : Path → List (List Char)
  | .rooted (_ :: text) => Text.splitOn '/' text
  | _ => []

/-- The name and the password before the host. -/
def userinfo (u : Url) : List Char :=
  match u.username, u.password with
  | [], none => []
  | name, none => name ++ ['@']
  | name, some password => name ++ ':' :: password ++ ['@']

/-- What stands between the scheme and the path. -/
def authority (u : Url) : List Char :=
  match u.host with
  | some host =>
    let port := match u.port with
      | some n => ':' :: Text.decimal n
      | none => []
    ['/', '/'] ++ u.userinfo ++ host.toChars ++ port
  | none => if u.guarded then ['/', '.'] else []

/-- The characters of a URL. -/
def toChars (u : Url) : List Char :=
  let query := match u.query with
    | some q => '?' :: q
    | none => []
  let fragment := match u.fragment with
    | some f => '#' :: f
    | none => []
  u.scheme ++ ':' :: u.authority ++ u.path.toChars ++ query ++ fragment

/-- The text of a URL. -/
def text (u : Url) : String := String.ofList u.toChars

/-- The port that a request to a URL goes to. -/
def effectivePort (u : Url) : Option Nat :=
  u.port <|> defaultPort? u.scheme

/-- The scheme, the host and the port: where a request goes. -/
def origin (u : Url) : List Char × Option Host × Option Nat :=
  (u.scheme, u.host, u.effectivePort)

/-- The URL without its name and password. -/
def withoutUserinfo (u : Url) : Url := { u with username := [], password := none }

end Url
end PatronGateway
