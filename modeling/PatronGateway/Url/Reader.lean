import PatronGateway.Url.Basic
import PatronGateway.Url.Walk

/-!
# Reading URLs

Control characters and blanks are dropped at both ends of a text; tabs and line breaks
count for nothing anywhere.  What follows the scheme is then cut into authority, path,
query and fragment, and each part is escaped by the class of its kind.  Special schemes
accept backslashes for slashes and always have a path.
-/

namespace PatronGateway
namespace Url

/-- Characters that are dropped at both ends of a URL. -/
def isMargin (c : Char) : Bool := c.toNat ≤ 0x20

/-- A text without what is dropped at its ends. -/
def trimMargins (cs : List Char) : List Char :=
  Text.dropTrailing isMargin (cs.dropWhile isMargin)

/-- The first character that counts, and what follows it. -/
def next? (cs : List Char) : Option (Char × List Char) :=
  match cs.dropWhile isDropped with
  | c :: rest => some (c, rest)
  | [] => none

/-- The characters of a scheme after its first letter. -/
def isSchemeChar (c : Char) : Bool :=
  c.isAlphanum || c == '+' || c == '-' || c == '.'

/-- Cuts a scheme off, in lower case. -/
def splitScheme? (cs : List Char) : Option (List Char × List Char) := do
  let (before, after) ← Text.splitFirst? ':' cs
  match withoutDropped before with
  | c :: rest =>
    if c.isAlpha && rest.all isSchemeChar then some ((c :: rest).map Char.toLower, after) else none
  | [] => none

/-- Whether a character divides segments under a scheme. -/
def isSlash (special : Bool) (c : Char) : Bool := c == '/' || (special && c == '\\')

/-- Whether a character ends the authority under a scheme. -/
def endsAuthority (special : Bool) (c : Char) : Bool :=
  isSlash special c || c == '?' || c == '#'

/-- Whether a character ends the path. -/
def endsPath (c : Char) : Bool := c == '?' || c == '#'

/-- Cuts a text where its path ends. -/
def splitPath (cs : List Char) : List Char × List Char :=
  (cs.takeWhile fun c => !endsPath c, cs.dropWhile fun c => !endsPath c)

/-- The slashes of either kind at the beginning, counted, and what follows them. -/
def takeSlashes (cs : List Char) : Nat × List Char :=
  let isLead (c : Char) := isSlash true c || isDropped c
  ((withoutDropped (cs.takeWhile isLead)).length, cs.dropWhile isLead)

/-- What follows two slashes. -/
def afterSlashes? (cs : List Char) : Option (List Char) :=
  match next? cs with
  | some ('/', rest) =>
    match next? rest with
    | some ('/', rest) => some rest
    | _ => none
  | _ => none

/-- The rules for the path of a scheme. -/
def pathRules (scheme : List Char) : PathRules := ⟨isFile scheme, pathClass⟩

/-- Cuts a path at its slashes. -/
def splitSlashes (special : Bool) (cs : List Char) : List (List Char) :=
  Text.splitOn '/' (cs.map fun c => if isSlash special c then '/' else c)

/-- Reads a path that goes on from another one. -/
def readPath (scheme start cs : List Char) : Walk :=
  walk (pathRules scheme) start (splitSlashes (isSpecial scheme) cs)

/-- Reads the path behind an authority.  That of a special scheme begins with a slash
in any case. -/
def readRootedPath (scheme cs : List Char) : Walk :=
  match next? cs with
  | some (c, rest) =>
    if isSpecial scheme then readPath scheme ['/'] (if isSlash true c then rest else cs)
    else if c == '/' then readPath scheme [] cs
    else readPath scheme ['/'] cs
  | none => if isSpecial scheme then ⟨['/'], false⟩ else ⟨[], false⟩

/-- The query and the fragment at the end of a text. -/
def readTail (scheme : List Char) (cs : List Char) : Option (List Char) × Option (List Char) :=
  let (query, fragment) := match Text.splitFirst? '#' (withoutDropped cs) with
    | some (before, after) => (before, some after)
    | none => (withoutDropped cs, none)
  let escaped := if isSpecial scheme then specialQueryClass else queryClass
  let query := match query with
    | '?' :: q => some (percentEncode escaped q)
    | _ => none
  (query, fragment.map (percentEncode fragmentClass))

/-- The name and the password before a host. -/
def readUserinfo (cs : List Char) : List Char × Option (List Char) :=
  match Text.splitFirst? ':' cs with
  | some (name, password) =>
    (percentEncode userinfoClass name,
      if password.isEmpty then none else some (percentEncode userinfoClass password))
  | none => (percentEncode userinfoClass cs, none)

/-- Cuts a host off; a colon inside brackets does not end it. -/
def splitHost (inBrackets : Bool) : List Char → List Char × List Char
  | [] => ([], [])
  | c :: rest =>
    if c == ':' && !inBrackets then ([], c :: rest)
    else
      let (host, after) := splitHost (if c == '[' then true else if c == ']' then false else inBrackets) rest
      (c :: host, after)

/-- Reads a port; none is left where it is the default one. -/
def readPort (scheme cs : List Char) : Except Error (Option Nat) :=
  if cs.isEmpty then .ok none
  else match Text.natural? cs with
    | some n =>
      if 65535 < n then .error .invalidPort
      else .ok (if defaultPort? scheme = some n then none else some n)
    | none => .error .invalidPort

/-- What an authority says: who asks, the host, the port, and what of the text belongs
to the path already. -/
structure Authority where
  username : List Char
  password : Option (List Char)
  host : Host
  port : Option Nat
  surplus : List Char

/-- Reads a host with a port.  A backslash ends the port under every scheme. -/
def readHostPort (scheme cs : List Char) : Except Error (Host × Option Nat × List Char) := do
  let (host, after) := splitHost false cs
  if host.isEmpty && (isSpecial scheme || !after.isEmpty) then .error .emptyHost
  else
    let h ← if isSpecial scheme then Host.special? host else Host.plain? host
    let behind := after.drop 1
    let port ← readPort scheme (behind.takeWhile (· != '\\'))
    return (h, port, behind.dropWhile (· != '\\'))

/-- Reads an authority; what follows it in the text matters only if nothing stands
around its at sign. -/
def readAuthorityText (scheme cs rest : List Char) : Except Error Authority := do
  let (info, hostPort) := (Text.splitLast? '@' cs).getD ([], cs)
  if cs == ['@'] && !rest.isEmpty then .error .emptyHost
  else
    let (host, port, surplus) ← readHostPort scheme hostPort
    let (username, password) := readUserinfo info
    if host = .name [] && (!username.isEmpty || password.isSome) then .error .emptyHost
    else return ⟨username, password, host, port, surplus⟩

/-- Reads what follows the two slashes before an authority. -/
def readAuthority (scheme cs : List Char) : Except Error Url := do
  let ends := endsAuthority (isSpecial scheme)
  let rest := cs.dropWhile fun c => !ends c
  let a ← readAuthorityText scheme (withoutDropped (cs.takeWhile fun c => !ends c)) rest
  let (path, tail) := splitPath (a.surplus ++ rest)
  let (query, fragment) := readTail scheme tail
  return {
    scheme, username := a.username, password := a.password, host := some a.host, port := a.port
    guarded := false, path := .rooted (readRootedPath scheme path).path, query, fragment }

/-- A URL without an authority. -/
def withoutAuthority (scheme : List Char) (host : Option Host) (path : Path) (tail : List Char) :
    Url :=
  let (query, fragment) := readTail scheme tail
  let guarded := host.isNone && path.toChars.take 2 == ['/', '/']
  { scheme, username := [], password := none, host, port := none, guarded, path, query, fragment }

/-- The scheme of local files. -/
def fileScheme : List Char := "file".toList

/-- A local file on a host. -/
def localFile (host : Host) (path : List Char) (tail : List Char) : Url :=
  withoutAuthority fileScheme (some host) (.rooted path) tail

/-- Reads what follows the two slashes before the host of a file.  `localhost` is no
host, and neither is a drive; and a drive has no host before it. -/
def readFileHost (cs : List Char) : Except Error Url := do
  let text := cs.takeWhile fun c => !endsAuthority true c
  let rest := cs.dropWhile fun c => !endsAuthority true c
  let name := withoutDropped text
  if isDrive name then
    let (path, tail) := splitPath cs
    return localFile (.name []) (readPath fileScheme ['/'] path).path tail
  else
    let (path, tail) := splitPath rest
    let host ← if name.isEmpty then .ok (Host.name []) else Host.special? name
    if host = .name [] || host = .name "localhost".toList then
      return localFile (.name []) (readPath fileScheme ['/'] path).path tail
    else
      let w := readRootedPath fileScheme path
      return localFile (if w.drive then .name [] else host) w.path tail

/-- Reads what follows `file:`. -/
def readFile (cs : List Char) : Except Error Url :=
  let (path, tail) := splitPath cs
  match next? cs with
  | some (a, rest) =>
    if isSlash true a then
      match next? rest with
      | some (b, rest) =>
        if isSlash true b then readFileHost rest
        else .ok (localFile (.name []) (readPath fileScheme [] path).path tail)
      | none => .ok (localFile (.name []) (readPath fileScheme [] path).path tail)
    else .ok (localFile (.name []) (readPath fileScheme ['/'] path).path tail)
  | none => .ok (localFile (.name []) ['/'] [])

/-- Reads what follows a scheme. -/
def readAfterScheme (scheme cs : List Char) : Except Error Url :=
  if isFile scheme then readFile cs
  else if isSpecial scheme then readAuthority scheme (takeSlashes cs).2
  else
    match afterSlashes? cs with
    | some rest => readAuthority scheme rest
    | none =>
      let (path, tail) := splitPath cs
      match next? path with
      | some ('/', rest) =>
        .ok (withoutAuthority scheme none (.rooted (readPath scheme ['/'] rest).path) tail)
      | _ =>
        .ok (withoutAuthority scheme none
          (.unstructured (percentEncode isControl (withoutDropped path))) tail)

/-- Reads a URL that stands alone. -/
def read (s : String) : Except Error Url :=
  match splitScheme? (trimMargins s.toList) with
  | some (scheme, rest) => readAfterScheme scheme rest
  | none => .error .noBase

/-- The URL of a base up to its path. -/
def withPath (base : Url) (path tail : List Char) : Url :=
  let (query, fragment) := readTail base.scheme tail
  let guarded := base.host.isNone && path.take 2 == ['/', '/']
  { base with guarded, path := .rooted path, query, fragment }

/-- The path of a base without its last segment, from which a reference goes on. -/
def directory (base : Url) (reference : List Char) : List Char :=
  let path := dropSegment (isFile base.scheme) base.path.toChars
  if path.isEmpty && (isSpecial base.scheme || !reference.isEmpty) then ['/'] else path

/-- Reads a reference without a scheme of its own against a base with a rooted
path. -/
def readRelative (base : Url) (cs : List Char) : Except Error Url :=
  let (path, tail) := splitPath cs
  match next? cs with
  | none => .ok { base with fragment := none }
  | some ('#', _) => .ok { base with fragment := (readTail base.scheme cs).2 }
  | some ('?', _) => .ok (withPath base base.path.toChars tail)
  | some (a, rest) =>
    if isSlash true a then
      let (count, behind) := takeSlashes cs
      if 2 ≤ count then
        if isFile base.scheme then readFile cs
        else readAuthority base.scheme ((afterSlashes? cs).getD behind)
      else .ok (withPath base (readPath base.scheme ['/'] (splitPath rest).1).path tail)
    else .ok (withPath base (readPath base.scheme (directory base cs) path).path tail)

/-- Reads a reference against a base. -/
def join (base : Url) (s : String) : Except Error Url :=
  let cs := trimMargins s.toList
  match splitScheme? cs with
  | some (scheme, rest) =>
    if scheme = base.scheme ∧ isSpecial scheme ∧ (takeSlashes rest).1 < 2 then
      readRelative base rest
    else readAfterScheme scheme rest
  | none =>
    match base.path, next? cs with
    | .rooted _, _ => readRelative base cs
    | .unstructured _, some ('#', _) => .ok { base with fragment := (readTail base.scheme cs).2 }
    | .unstructured _, _ => .error .opaqueBase

end Url
end PatronGateway
