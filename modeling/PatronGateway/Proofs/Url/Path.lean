import Mathlib.Data.List.TakeWhile
import PatronGateway.Url.Reader

/-!
# Paths begin with a slash

The path of a URL with a special scheme begins with a slash: a walk along a path that begins
with one never goes above it, and reading starts such a walk behind the authority.  Local files
follow other rules and are left out.

* `Walk.steps_rooted` says that a walk keeps the slash at the beginning.
* `scheme_of_readAfterScheme` says that a URL has the scheme that was read.
* `rooted_of_read` is the statement about URLs, and `toChars_path_inj` says that URLs that differ
  in their paths alone are written differently.
-/

namespace PatronGateway
namespace Url

/-- A path that begins with a slash. -/
def Rooted (path : List Char) : Prop := ∃ rest, path = '/' :: rest

variable {path before : List Char}

theorem Rooted.append (h : Rooted path) (ending : List Char) : Rooted (path ++ ending) := by
  obtain ⟨rest, rfl⟩ := h
  exact ⟨rest ++ ending, rfl⟩

theorem Rooted.mem (h : Rooted path) : '/' ∈ path := by
  obtain ⟨rest, rfl⟩ := h
  exact List.mem_cons_self

/-- What is left of a path that begins with a slash begins with it. -/
theorem Rooted.of_prefix (h : Rooted path) (hbegins : before <+: path) (hne : before ≠ []) :
    Rooted before := by
  obtain ⟨rest, rfl⟩ := h
  rcases List.prefix_cons_iff.mp hbegins with rfl | ⟨tail, rfl, -⟩
  · exact absurd rfl hne
  · exact ⟨tail, rfl⟩

theorem upToSlash_isPrefix (path : List Char) : upToSlash path <+: path := by
  unfold upToSlash
  rw [← List.reverse_suffix, List.reverse_reverse]
  exact List.dropWhile_suffix _

theorem upToSlash_ne_nil (h : '/' ∈ path) : upToSlash path ≠ [] := by
  unfold upToSlash
  rw [ne_eq, List.reverse_eq_nil_iff]
  intro hnone
  have hall := List.dropWhile_eq_nil_iff.mp hnone
  exact absurd (hall '/' (List.mem_reverse.mpr h)) (by decide)

section LastSegment

variable {name : List Char} (before : List Char)

/-- Read from its end, a path begins with its last segment. -/
theorem reverse_append_slash :
    (before ++ '/' :: name).reverse = name.reverse ++ '/' :: before.reverse := by
  simp

theorem bne_slash_of_mem_reverse (h : '/' ∉ name) : ∀ c ∈ name.reverse, (c != '/') = true := by
  intro c hc
  rw [bne_iff_ne]
  rintro rfl
  exact h (List.mem_reverse.mp hc)

/-- A path up to the slash before its last segment. -/
theorem upToSlash_append (h : '/' ∉ name) :
    upToSlash (before ++ '/' :: name) = before ++ ['/'] := by
  unfold upToSlash
  rw [reverse_append_slash, List.dropWhile_append_of_pos (bne_slash_of_mem_reverse h)]
  simp

/-- What stands behind that slash. -/
theorem lastSegment_append (h : '/' ∉ name) : lastSegment (before ++ '/' :: name) = name := by
  unfold lastSegment
  rw [reverse_append_slash, List.takeWhile_append_of_pos (bne_slash_of_mem_reverse h)]
  simp

end LastSegment

/-- Going up leaves a path that begins with a slash with that slash. -/
theorem Rooted.ascend (h : Rooted path) : Rooted (ascend false path) := by
  unfold Url.ascend
  dsimp only
  split
  case isTrue hslash =>
    simp only [Bool.and_eq_true, List.contains_iff_mem] at hslash
    have hbegins : upToSlash path.dropLast <+: path :=
      (upToSlash_isPrefix _).trans (List.dropLast_prefix path)
    exact h.of_prefix hbegins (upToSlash_ne_nil hslash.1.2)
  case isFalse => exact h.of_prefix (upToSlash_isPrefix path) (upToSlash_ne_nil h.mem)

namespace Walk

variable {r : PathRules} {w : Walk}

/-- One step keeps the slash at the beginning. -/
theorem step_rooted (hfile : r.file = false) (h : Rooted w.path) (raw : List Char) (slash : Bool) :
    Rooted (w.step r raw slash).path := by
  unfold step
  simp only [hfile, Bool.false_and, Bool.false_eq_true, if_false]
  split
  · split
    · exact h.ascend.append _
    · exact h.ascend
  · split
    · show Rooted (if endsWithSlash w.path then w.path else w.path ++ ['/'])
      split
      · exact h
      · exact h.append _
    · exact (h.append _).append _

/-- A walk that begins below the root stays there. -/
theorem steps_rooted (hfile : r.file = false) (h : Rooted w.path) (segments : List (List Char)) :
    Rooted (w.steps r segments).path := by
  induction segments generalizing w with
  | nil => exact h
  | cons raw rest ih =>
      cases rest with
      | nil => exact step_rooted hfile h raw false
      | cons next rest => exact ih (step_rooted hfile h raw true)

end Walk

theorem walk_path {r : PathRules} (hfile : r.file = false) (start : List Char)
    (segments : List (List Char)) :
    (walk r start segments).path = (Walk.steps r ⟨start, false⟩ segments).path := by
  unfold walk Walk.finish
  rw [hfile]
  rfl

section Reading

variable {scheme cs : List Char} {u : Url}

theorem readRootedPath_rooted (hspecial : isSpecial scheme = true) (hfile : isFile scheme = false)
    (cs : List Char) : Rooted (readRootedPath scheme cs).path := by
  have hread : ∀ text, Rooted (readPath scheme ['/'] text).path := by
    intro text
    unfold readPath
    rw [walk_path (r := pathRules scheme) hfile]
    exact Walk.steps_rooted hfile ⟨[], rfl⟩ _
  unfold readRootedPath
  rw [hspecial]
  split
  · exact hread _
  · exact ⟨[], rfl⟩

theorem scheme_of_readAuthority (h : readAuthority scheme cs = .ok u) : u.scheme = scheme := by
  unfold readAuthority at h
  dsimp only [bind, Except.bind, pure, Except.pure] at h
  split at h
  · cases h
  · cases h
    rfl

theorem scheme_of_readFileHost (h : readFileHost cs = .ok u) : u.scheme = fileScheme := by
  have hlocal (host : Host) (path tail : List Char) :
      (localFile host path tail).scheme = fileScheme := rfl
  unfold readFileHost at h
  dsimp only [bind, Except.bind, pure, Except.pure] at h
  split at h
  · obtain rfl := Except.ok.inj h
    exact hlocal _ _ _
  · split at h
    · obtain rfl := Except.ok.inj h
      exact hlocal _ _ _
    · split at h
      · cases h
      · next host _ =>
          -- the name of the machine itself counts as no host
          by_cases hname : (decide (host = .name []) ||
              decide (host = .name "localhost".toList)) = true
          · rw [if_pos hname] at h
            obtain rfl := Except.ok.inj h
            exact hlocal _ _ _
          · rw [if_neg hname] at h
            obtain rfl := Except.ok.inj h
            exact hlocal _ _ _

theorem scheme_of_readFile (h : readFile cs = .ok u) : u.scheme = fileScheme := by
  unfold readFile at h
  dsimp only at h
  split at h
  · split at h
    · split at h
      · split at h
        · exact scheme_of_readFileHost h
        · cases h
          rfl
      · cases h
        rfl
    · cases h
      rfl
  · cases h
    rfl

/-- A URL has the scheme that has been read. -/
theorem scheme_of_readAfterScheme (h : readAfterScheme scheme cs = .ok u) : u.scheme = scheme := by
  unfold readAfterScheme at h
  split at h
  case isTrue hfile =>
    rw [scheme_of_readFile h]
    exact (beq_iff_eq.mp hfile).symm
  case isFalse =>
    split at h
    · exact scheme_of_readAuthority h
    · split at h
      · exact scheme_of_readAuthority h
      · dsimp only at h
        split at h
        · cases h
          rfl
        · cases h
          rfl

/-- Behind an authority, the path of a special scheme begins with a slash. -/
theorem rooted_of_readAuthority (hspecial : isSpecial scheme = true)
    (hfile : isFile scheme = false) (h : readAuthority scheme cs = .ok u) :
    ∃ path, u.path = .rooted path ∧ Rooted path := by
  unfold readAuthority at h
  dsimp only [bind, Except.bind, pure, Except.pure] at h
  split at h
  · cases h
  · cases h
    exact ⟨_, rfl, readRootedPath_rooted hspecial hfile _⟩

/-- The path of a URL with a special scheme begins with a slash. -/
theorem rooted_of_read {text : String} (h : read text = .ok u) (hspecial : isSpecial u.scheme = true)
    (hfile : isFile u.scheme = false) : ∃ path, u.path = .rooted path ∧ Rooted path := by
  unfold read at h
  split at h
  case h_2 => cases h
  case h_1 scheme rest _ =>
    rw [scheme_of_readAfterScheme h] at hspecial hfile
    unfold readAfterScheme at h
    rw [if_neg (by rw [hfile]; decide), if_pos hspecial] at h
    exact rooted_of_readAuthority hspecial hfile h

end Reading

/-- Two URLs that differ in their paths alone are written differently. -/
theorem toChars_path_inj {u : Url} {path path' : Path}
    (h : { u with path := path }.text = { u with path := path' }.text) :
    path.toChars = path'.toChars := by
  have hchars : { u with path := path }.toChars = { u with path := path' }.toChars :=
    String.ofList_injective h
  have hauthority : { u with path := path }.authority = { u with path := path' }.authority := rfl
  unfold toChars at hchars
  dsimp only at hchars
  rw [hauthority] at hchars
  exact List.append_cancel_left (List.append_cancel_right (List.append_cancel_right hchars))

end Url
end PatronGateway
