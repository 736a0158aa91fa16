import PatronGateway.Text.Split
import PatronGateway.Url.Percent

/-!
# Walking along a path

A path is read segment by segment, as one walks through directories: a segment leads
further down, one dot stays where it is and two dots go back up, but never above the
root.  Local files have one more rule: the letter of a drive, such as `C:`, is not left
again.

Tabs and line breaks in a segment count for nothing, except that they cut off a drive
from what follows it.
-/

namespace PatronGateway
namespace Url

/-- Characters that count for nothing in a URL. -/
def isDropped (c : Char) : Bool := c == '\t' || c == '\n' || c == '\r'

/-- A text without the characters that count for nothing. -/
def withoutDropped (cs : List Char) : List Char := cs.filter fun c => !isDropped c

/-- A segment that stands for the directory itself. -/
def isSingleDot (segment : List Char) : Bool :=
  String.ofList (segment.map Char.toLower) ∈ [".", "%2e"]

/-- A segment that stands for the directory above. -/
def isDoubleDot (segment : List Char) : Bool :=
  String.ofList (segment.map Char.toLower) ∈ ["..", ".%2e", "%2e.", "%2e%2e"]

/-- A segment that is the letter of a drive. -/
def isDrive : List Char → Bool
  | [c, ':'] | [c, '|'] => c.isAlpha
  | _ => false

/-- The letter of a drive in its usual spelling. -/
def isPlainDrive : List Char → Bool
  | [c, ':'] => c.isAlpha
  | _ => false

/-- The rules of a path: whether it is that of a local file, and which characters are
escaped in it. -/
structure PathRules where
  file : Bool
  escaped : CharClass

/-- Where a walk has come to: the path up to there, and whether a drive has been
entered. -/
structure Walk where
  path : List Char
  drive : Bool
  deriving DecidableEq, Repr

/-- A path up to its last slash. -/
def upToSlash (path : List Char) : List Char :=
  (path.reverse.dropWhile (· != '/')).reverse

/-- What stands behind the last slash of a path. -/
def lastSegment (path : List Char) : List Char :=
  (path.reverse.takeWhile (· != '/')).reverse

/-- Whether a path ends with a slash. -/
def endsWithSlash (path : List Char) : Bool := path.getLast? == some '/'

/-- Drops the last segment of a path; that of a local file may not be a drive. -/
def dropSegment (file : Bool) (path : List Char) : List Char :=
  if file && isPlainDrive (lastSegment path) then path else upToSlash path

/-- Goes one directory up from a path that ends with a slash. -/
def ascend (file : Bool) (path : List Char) : List Char :=
  let before := path.dropLast
  if endsWithSlash path && before.contains '/' && !isDrive (lastSegment before) then
    dropSegment file before
  else dropSegment file path

/-- Cuts a drive off that a tab or a line break divides from what follows. -/
def cutDrive? (raw : List Char) : Option (Char × List Char) :=
  match raw.dropWhile isDropped with
  | c :: rest =>
    match rest.dropWhile isDropped with
    | ':' :: d :: rest =>
      let behind := withoutDropped rest
      if c.isAlpha && isDropped d && !behind.isEmpty then some (c, behind) else none
    | _ => none
  | [] => none

namespace Walk

/-- Walks along one segment, given as it came; a slash may follow it. -/
def step (r : PathRules) (w : Walk) (raw : List Char) (slash : Bool) : Walk :=
  let ending := if slash then ['/'] else []
  let segment := percentEncode r.escaped (withoutDropped raw)
  let atRoot := r.file && w.path == ['/']
  match if atRoot then cutDrive? raw else none with
  | some (c, rest) =>
    { w with path := ['/', c, ':', '/'] ++ percentEncode r.escaped rest ++ ending }
  | none =>
    if isDoubleDot segment then
      let path := ascend r.file w.path
      { w with path := if slash && !endsWithSlash path then path ++ ['/'] else path }
    else if isSingleDot segment then
      { w with path := if endsWithSlash w.path then w.path else w.path ++ ['/'] }
    else if atRoot && isDrive segment then
      ⟨w.path ++ segment.take 1 ++ ':' :: ending, true⟩
    else { w with path := w.path ++ segment ++ ending }

/-- Walks along several segments with slashes between them. -/
def steps (r : PathRules) (w : Walk) : List (List Char) → Walk
  | [] => w
  | [raw] => w.step r raw false
  | raw :: rest => steps r (w.step r raw true) rest

/-- Ends a walk; the path of a local file begins with one slash only. -/
def finish (r : PathRules) (w : Walk) : Walk :=
  if r.file then { w with path := '/' :: w.path.dropWhile (· == '/') } else w

end Walk

/-- Walks on from a path, along segments with slashes between them. -/
def walk (r : PathRules) (start : List Char) (segments : List (List Char)) : Walk :=
  (Walk.steps r ⟨start, false⟩ segments).finish r

end Url
end PatronGateway
