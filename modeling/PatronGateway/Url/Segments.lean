import PatronGateway.Url.Reader

/-!
# Adding segments to a path

Segments are added behind the path of a base; one empty segment at the end of
the base gives way first.  A segment is escaped so that it cannot be mistaken for
several, and the two dot segments are left out.  Tabs and line breaks vanish from
a segment only after that, so a dot segment that holds one still counts as such.
-/

namespace PatronGateway
namespace Url

/-- Drops one empty segment at the end, unless it is the only one. -/
def popIfEmpty (path : List Char) : List Char :=
  if 2 ≤ path.length ∧ endsWithSlash path then path.dropLast else path

/-- The rules for segments that are added to the path of a scheme. -/
def segmentRules (scheme : List Char) : PathRules :=
  ⟨isFile scheme, if isSpecial scheme then specialSegmentClass else segmentClass⟩

/-- Adds one segment to a path. -/
def pushSegment (r : PathRules) (path : List Char) (segment : String) : List Char :=
  if segment = "." ∨ segment = ".." then path
  else (walk r (if path.length = 1 then path else path ++ ['/']) [segment.toList]).path

/-- The URL with segments added to its path; there is none where the path has no
structure. -/
def extend? (u : Url) (segments : List String) : Option Url :=
  match u.path with
  | .rooted path =>
    let longer := segments.foldl (pushSegment (segmentRules u.scheme)) (popIfEmpty path)
    some { u with path := .rooted longer }
  | .unstructured _ => none

end Url
end PatronGateway
