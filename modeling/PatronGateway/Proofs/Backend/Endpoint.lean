import PatronGateway.Proofs.Backend.Exchange
import PatronGateway.Proofs.Backend.ServiceToken
import PatronGateway.Proofs.Url.Segments

/-!
# The paths of the backend

The client of a backend adds segments to the path of one base, which has been read from the
address that is configured.  A slash at the end of that path is not written twice.  There is one
exception: a path of two slashes is the path of a root without a name, and counts as a root.

* `Url.stem` is what the segments are added to, and `Url.stem_eq_trunk` compares it with what
  adding segments does.
* `IsStep` says what an escaped name is among other segments.
* `endpoint_eq` is the URL of a row of segments, and `endpoint_of_plain` the one of a row in which
  every segment leads down by its whole name.
-/

namespace PatronGateway
namespace Url

/-- A path without the slash at its end. -/
def withoutLastSlash (path : List Char) : List Char :=
  if endsWithSlash path then path.dropLast else path

/-- The path that segments are added to. -/
def stem (u : Url) : List Char :=
  if u.path.toChars = ['/', '/'] then [] else withoutLastSlash u.path.toChars

/-- Adding segments drops an empty one at the end of the path, and then does not write the slash
of a root. -/
theorem stem_eq_trunk {u : Url} {path : List Char} (hpath : u.path = .rooted path)
    (h : Rooted path) : u.stem = trunk (popIfEmpty path) := by
  obtain ⟨rest, rfl⟩ := h
  have hchars : u.path.toChars = '/' :: rest := by
    rw [hpath]
    rfl
  unfold stem
  rw [hchars]
  match rest with
  | [] => rfl
  | [c] =>
      by_cases hc : c = '/'
      · rw [hc]
        rfl
      · have hopen : endsWithSlash ['/', c] = false := by
          simp [endsWithSlash, hc]
        rw [if_neg (by simp [hc])]
        simp [withoutLastSlash, popIfEmpty, hopen, trunk]
  | c :: d :: rest =>
      have hlong : 2 ≤ ('/' :: c :: d :: rest).length := by simp
      rw [if_neg (by simp)]
      unfold withoutLastSlash popIfEmpty
      by_cases hends : endsWithSlash ('/' :: c :: d :: rest) = true
      · rw [if_pos hends, if_pos ⟨hlong, hends⟩, trunk_of_two_le (by simp)]
      · rw [if_neg hends, if_neg (fun h => hends h.2), trunk_of_two_le hlong]

end Url

namespace Backend
namespace Client

open Http (Network)
open Time (Span)
open Url (IsPlain Rooted isDoubleDot isSingleDot percentEncode popIfEmpty pushSegment slashed
  specialSegmentClass webRules)

/-- The URL of the base with another path. -/
def urlOf (c : Client) (path : List Char) : Url := { c.base with path := .rooted path }

/-- A segment that divides no other segments, does not end the path, and is no dot segment. -/
structure IsStep (segment : List Char) : Prop where
  undivided : ∀ c ∈ segment, Url.endsAuthority true c = false
  no_single_dot : isSingleDot segment = false
  no_double_dot : isDoubleDot segment = false

/-- An escaped name is a step, unless the name is a dot segment. -/
theorem isStep_percentEncode {name : List Char} (hdot : name ≠ ['.']) (hdots : name ≠ ['.', '.']) :
    IsStep (percentEncode specialSegmentClass name) where
  undivided _ := Url.endsAuthority_of_mem_percentEncode
  no_single_dot :=
    Bool.eq_false_iff.mpr fun h => hdot (Url.isSingleDot_percentEncode_iff.mp h)
  no_double_dot :=
    Bool.eq_false_iff.mpr fun h => hdots (Url.isDoubleDot_percentEncode_iff.mp h)

theorem IsStep.slash_not_mem {segment : List Char} (h : IsStep segment) : '/' ∉ segment :=
  fun hmem => absurd (h.undivided '/' hmem) (by decide)

section

variable {address : String} {token : Option String} {timeout : Span} {c : Client}

/-- A client has a URL for every row of segments. -/
theorem exists_endpoint (hbuild : build address token timeout = .ok c) (segments : List String) :
    ∃ path, c.endpoint segments = .ok (c.urlOf path) := by
  have hbase : c.base.canBeBase = true := by
    unfold build at hbuild
    split at hbuild
    · cases hbuild
    · split at hbuild
      · next hbase =>
          cases hbuild
          exact hbase
      · cases hbuild
  unfold Url.canBeBase at hbase
  unfold endpoint Url.extend?
  cases hpath : c.base.path with
  | rooted path => exact ⟨_, rfl⟩
  | unstructured path =>
      rw [hpath] at hbase
      cases hbase

/-- The URL of a row of segments, for a backend on the web. -/
theorem endpoint_eq (hbuild : build address token timeout = .ok c)
    (hweb : Http.isWebScheme c.base.scheme = true) :
    ∃ path, Rooted path ∧ Url.trunk path = c.base.stem ∧ ∀ segments,
      c.endpoint segments = .ok (c.urlOf (segments.foldl (pushSegment webRules) path)) := by
  obtain ⟨hspecial, hfile⟩ := Url.special_of_isWebScheme hweb
  obtain ⟨path, hpath, hrooted⟩ := Url.rooted_of_read (base_of_build hbuild).1 hspecial hfile
  refine ⟨popIfEmpty path, Url.rooted_popIfEmpty hrooted, (Url.stem_eq_trunk hpath hrooted).symm,
    fun segments => ?_⟩
  unfold endpoint Url.extend?
  rw [hpath, Url.segmentRules_eq_webRules hspecial hfile]
  rfl

/-- The URL of a row of segments that lead down by their whole names. -/
theorem endpoint_of_plain (hbuild : build address token timeout = .ok c)
    (hweb : Http.isWebScheme c.base.scheme = true) (segment : String) (rest : List String)
    (hne : segment ≠ "") (hplain : ∀ s ∈ segment :: rest, IsPlain s) :
    c.endpoint (segment :: rest) = .ok (c.urlOf (c.base.stem ++
      slashed ((segment :: rest).map fun s => percentEncode specialSegmentClass s.toList))) := by
  obtain ⟨path, hrooted, hstem, hendpoint⟩ := endpoint_eq hbuild hweb
  rw [hendpoint, Url.foldl_pushSegment_of_plain hrooted segment rest hne hplain, hstem]

/-- Where an operation has a URL, it is carried out by sending its request there. -/
theorem ask_of_endpoint {operation : Operation} {u : Url}
    (h : c.endpoint operation.path = .ok u) (n : Network) (tenant : String) :
    c.ask n tenant operation = c.send n (operation.outgoing c tenant u) := by
  unfold ask sendTo
  rw [h]

end

end Client
end Backend
end PatronGateway
