import PatronGateway.Http.Network
import PatronGateway.Proofs.Url.Path
import PatronGateway.Proofs.Url.Percent
import PatronGateway.Url.Segments

/-!
# Where added segments lead

A segment that is added to a path leads one level down, by its name without tabs and line
breaks, and is written so that nothing in it divides segments.  Two kinds of names do not: the
two dot segments are left out, and a name that is a dot segment only without its tabs and line
breaks is followed like one.

* `Turn.ofSegment` says which turn a segment takes, and `pushSegment_eq` what it makes of a path.
* `isDoubleDot_percentEncode_iff` and `isSingleDot_percentEncode_iff` say that escaping neither
  makes a dot segment nor hides one.
* `foldl_pushSegment_of_plain` is about rows of segments that lead down by their whole names.
-/

namespace PatronGateway
namespace Url

/-- The rules for segments of the special schemes but that of local files. -/
def webRules : PathRules := ⟨false, specialSegmentClass⟩

theorem segmentRules_eq_webRules {scheme : List Char} (hspecial : isSpecial scheme = true)
    (hfile : isFile scheme = false) : segmentRules scheme = webRules := by
  unfold segmentRules
  rw [hspecial, hfile]
  rfl

/-- The schemes that requests are sent with are special, and none of them is that of files. -/
theorem special_of_isWebScheme {scheme : List Char} (h : Http.isWebScheme scheme = true) :
    isSpecial scheme = true ∧ isFile scheme = false := by
  unfold Http.isWebScheme at h
  rcases Bool.or_eq_true_iff.mp h with hplain | hsecure
  · rw [beq_iff_eq.mp hplain]
    decide
  · rw [beq_iff_eq.mp hsecure]
    decide

section DotSegments

variable {segment name : List Char}

theorem toNat_toLower (c : Char) :
    c.toLower.toNat = if 65 ≤ c.toNat ∧ c.toNat ≤ 90 then c.toNat + 32 else c.toNat := by
  unfold Char.toLower
  split
  case isTrue hupper =>
    have hcode : 65 ≤ c.toNat ∧ c.toNat ≤ 90 := hupper
    rw [if_pos hcode]
    show (c.toNat + 32) % 2 ^ 32 = c.toNat + 32
    omega
  case isFalse hother =>
    have hcode : ¬ (65 ≤ c.toNat ∧ c.toNat ≤ 90) := hother
    rw [if_neg hcode]

/-- A character whose small letter stands before the letters is that character. -/
theorem eq_of_toLower_eq {c d : Char} (h : c.toLower = d) (hd : d.toNat < 97) : c = d := by
  have hcode := toNat_toLower c
  rw [h] at hcode
  apply Char.toNat_inj.mp
  split at hcode <;> omega

theorem eq_or_eq_of_toLower_eq_e {c : Char} (h : c.toLower = 'e') : c = 'e' ∨ c = 'E' := by
  have hcode := toNat_toLower c
  rw [h] at hcode
  split at hcode
  · right
    apply Char.toNat_inj.mp
    show c.toNat = 69
    have : 'e'.toNat = 101 := rfl
    omega
  · left
    exact Char.toNat_inj.mp hcode.symm

/-- The spellings of one dot. -/
def dotSpellings : List (List Char) := [['.'], ['%', '2', 'e'], ['%', '2', 'E']]

/-- What reads as one dot in small letters is a spelling of it. -/
theorem mem_dotSpellings_of_map_toLower
    (h : segment.map Char.toLower = ['.'] ∨ segment.map Char.toLower = ['%', '2', 'e']) :
    segment ∈ dotSpellings := by
  rcases h with h | h
  · obtain ⟨c, rfl, hc⟩ := List.map_eq_singleton_iff.mp h
    obtain rfl := eq_of_toLower_eq hc (by decide)
    decide
  · simp only [List.map_eq_cons_iff, List.map_eq_nil_iff] at h
    obtain ⟨a, _, rfl, ha, b, _, rfl, hb, c, _, rfl, hc, rfl⟩ := h
    obtain rfl := eq_of_toLower_eq ha (by decide)
    obtain rfl := eq_of_toLower_eq hb (by decide)
    rcases eq_or_eq_of_toLower_eq_e hc with rfl | rfl <;> decide

/-- One dot is read from every spelling of a single dot. -/
theorem percentDecodeText_of_isSingleDot (h : isSingleDot segment = true) :
    percentDecodeText segment = ['.'].flatMap String.utf8EncodeChar := by
  have hspelling : segment ∈ dotSpellings := by
    apply mem_dotSpellings_of_map_toLower
    simpa [isSingleDot, ← String.toList_inj] using h
  have hdecoded : ∀ a ∈ dotSpellings,
      percentDecodeText a = ['.'].flatMap String.utf8EncodeChar := by
    decide
  exact hdecoded segment hspelling

/-- Two dots are read from every spelling of a double dot. -/
theorem percentDecodeText_of_isDoubleDot (h : isDoubleDot segment = true) :
    percentDecodeText segment = ['.', '.'].flatMap String.utf8EncodeChar := by
  have hspellings : ∃ a ∈ dotSpellings, ∃ b ∈ dotSpellings, a ++ b = segment := by
    have hsplit : ∃ t t', segment.map Char.toLower = t ++ t' ∧
        (t = ['.'] ∨ t = ['%', '2', 'e']) ∧ (t' = ['.'] ∨ t' = ['%', '2', 'e']) := by
      simp only [isDoubleDot, decide_eq_true_eq, List.mem_cons, List.not_mem_nil, or_false,
        ← String.toList_inj, String.toList_ofList] at h
      rcases h with h | h | h | h
      · exact ⟨['.'], ['.'], h, Or.inl rfl, Or.inl rfl⟩
      · exact ⟨['.'], ['%', '2', 'e'], h, Or.inl rfl, Or.inr rfl⟩
      · exact ⟨['%', '2', 'e'], ['.'], h, Or.inr rfl, Or.inl rfl⟩
      · exact ⟨['%', '2', 'e'], ['%', '2', 'e'], h, Or.inr rfl, Or.inr rfl⟩
    obtain ⟨t, t', hmap, ht, ht'⟩ := hsplit
    obtain ⟨a, b, rfl, rfl, rfl⟩ := List.map_eq_append_iff.mp hmap
    exact ⟨a, mem_dotSpellings_of_map_toLower ht, b, mem_dotSpellings_of_map_toLower ht', rfl⟩
  have hdecoded : ∀ a ∈ dotSpellings, ∀ b ∈ dotSpellings,
      percentDecodeText (a ++ b) = ['.', '.'].flatMap String.utf8EncodeChar := by
    decide
  obtain ⟨a, ha, b, hb, rfl⟩ := hspellings
  exact hdecoded a ha b hb

/-- Escaping makes a double dot of nothing but two dots. -/
theorem isDoubleDot_percentEncode_iff :
    isDoubleDot (percentEncode specialSegmentClass name) = true ↔ name = ['.', '.'] := by
  constructor
  · intro h
    have hdecoded := percentDecodeText_of_isDoubleDot h
    rw [percentDecodeText_percentEncode rfl] at hdecoded
    exact Text.Utf8.flatMap_utf8EncodeChar_inj hdecoded
  · rintro rfl
    decide

/-- Escaping makes a single dot of nothing but one dot. -/
theorem isSingleDot_percentEncode_iff :
    isSingleDot (percentEncode specialSegmentClass name) = true ↔ name = ['.'] := by
  constructor
  · intro h
    have hdecoded := percentDecodeText_of_isSingleDot h
    rw [percentDecodeText_percentEncode rfl] at hdecoded
    exact Text.Utf8.flatMap_utf8EncodeChar_inj hdecoded
  · rintro rfl
    decide

end DotSegments

/-- Nothing in an escaped segment divides segments or ends the path. -/
theorem endsAuthority_of_mem_percentEncode {name : List Char} {c : Char}
    (h : c ∈ percentEncode specialSegmentClass name) : endsAuthority true c = false := by
  have hfree {d : Char} (hd : specialSegmentClass d = true) (hsign : d ≠ '%')
      (hdigit : ∀ n : Text.Nibble, d ≠ n.toUpperChar) : c ≠ d := by
    rintro rfl
    exact not_mem_percentEncode hd hsign hdigit name h
  have hslash : c ≠ '/' := hfree (by decide) (by decide) (by decide)
  have hbackslash : c ≠ '\\' := hfree (by decide) (by decide) (by decide)
  have hquestion : c ≠ '?' := hfree (by decide) (by decide) (by decide)
  have hhash : c ≠ '#' := hfree (by decide) (by decide) (by decide)
  simp [endsAuthority, isSlash, hslash, hbackslash, hquestion, hhash]

/-- Where a segment leads that is added to a path. -/
inductive Turn where
  | stay
  | up
  | down (name : List Char)
  deriving DecidableEq, Repr

/-- A segment that leads down by its whole name. -/
def IsPlain (segment : String) : Prop :=
  segment ≠ "." ∧ segment ≠ ".." ∧ segment.toList.any isDropped = false

instance (segment : String) : Decidable (IsPlain segment) :=
  inferInstanceAs (Decidable (_ ∧ _ ∧ _))

namespace Turn

/-- The turn that a segment takes.  The dot segments are left out as they are written; tabs and
line breaks vanish only after that, and two dots that are left then lead up, whereas one dot
leads to a segment without a name. -/
def ofSegment (segment : String) : Turn :=
  if segment = "." ∨ segment = ".." then .stay
  else if withoutDropped segment.toList = ['.', '.'] then .up
  else if withoutDropped segment.toList = ['.'] then .down []
  else .down (withoutDropped segment.toList)

variable {segment : String}

/-- The segments that lead down by their whole names are the plain ones. -/
theorem ofSegment_eq_down_iff :
    ofSegment segment = .down segment.toList ↔ IsPlain segment := by
  have hkept : withoutDropped segment.toList = segment.toList ↔
      segment.toList.any isDropped = false := by
    simp [withoutDropped]
  have htext {name : List Char} (h : segment.toList = name) : segment = String.ofList name := by
    rw [← h, String.ofList_toList]
  constructor
  · intro h
    unfold ofSegment at h
    split at h
    case isTrue => cases h
    case isFalse hdots =>
      obtain ⟨hdot, hdoubleDot⟩ := not_or.mp hdots
      refine ⟨hdot, hdoubleDot, hkept.mp ?_⟩
      split at h
      · cases h
      · split at h
        · -- a dot would be left of the empty segment
          have hnil : segment.toList = [] := (Turn.down.inj h).symm
          rw [hnil]
          rfl
        · exact Turn.down.inj h
  · rintro ⟨hdot, hdoubleDot, hplain⟩
    unfold ofSegment
    rw [if_neg (not_or.mpr ⟨hdot, hdoubleDot⟩), hkept.mpr hplain,
      if_neg fun h => hdoubleDot (htext h), if_neg fun h => hdot (htext h)]

end Turn

/-- A path that segments are added to, without the slash that a root consists of. -/
def trunk (path : List Char) : List Char := if path.length = 1 then [] else path

/-- Segments, each behind a slash. -/
def slashed (segments : List (List Char)) : List Char := segments.flatMap fun s => '/' :: s

section Pushing

variable {path : List Char}

theorem trunk_of_two_le (h : 2 ≤ path.length) : trunk path = path := by
  unfold trunk
  rw [if_neg (by omega)]

/-- A slash stands before the segment that is added. -/
theorem trunk_append_slash (h : Rooted path) :
    (if path.length = 1 then path else path ++ ['/']) = trunk path ++ ['/'] := by
  obtain ⟨rest, rfl⟩ := h
  unfold trunk
  cases rest with
  | nil => rfl
  | cons c rest => simp

/-- A path still begins with a slash when one empty segment at its end is dropped. -/
theorem rooted_popIfEmpty (h : Rooted path) : Rooted (popIfEmpty path) := by
  unfold popIfEmpty
  split
  case isTrue hlong =>
    apply h.of_prefix (List.dropLast_prefix path)
    intro hnil
    have hlength := congrArg List.length hnil
    rw [List.length_dropLast, List.length_nil] at hlength
    omega
  case isFalse => exact h

/-- Behind the trunk of a path, the slash of a root is there again. -/
theorem rooted_trunk_append (h : Rooted path) (ending : List Char) :
    Rooted (trunk path ++ '/' :: ending) := by
  unfold trunk
  split
  · exact ⟨ending, rfl⟩
  · exact h.append _

/-- What a segment makes of a path that begins with a slash. -/
theorem pushSegment_eq (h : Rooted path) (segment : String) :
    pushSegment webRules path segment =
      match Turn.ofSegment segment with
      | .stay => path
      | .up => ascend false (trunk path ++ ['/'])
      | .down name => trunk path ++ '/' :: percentEncode specialSegmentClass name := by
  unfold pushSegment Turn.ofSegment
  by_cases hdots : segment = "." ∨ segment = ".."
  · rw [if_pos hdots, if_pos hdots]
  rw [if_neg hdots, if_neg hdots, trunk_append_slash h, walk_path (r := webRules) rfl]
  show (Walk.step webRules ⟨trunk path ++ ['/'], false⟩ segment.toList false).path = _
  unfold Walk.step
  have hending : endsWithSlash (trunk path ++ ['/']) = true := by
    simp [endsWithSlash]
  simp only [webRules, Bool.false_and, Bool.false_eq_true, if_false, List.append_nil,
    isDoubleDot_percentEncode_iff, isSingleDot_percentEncode_iff, hending, if_true]
  by_cases hdouble : withoutDropped segment.toList = ['.', '.']
  · rw [if_pos hdouble, if_pos hdouble]
  rw [if_neg hdouble, if_neg hdouble]
  by_cases hsingle : withoutDropped segment.toList = ['.']
  · rw [if_pos hsingle, if_pos hsingle]
    rfl
  · rw [if_neg hsingle, if_neg hsingle]
    show trunk path ++ ['/'] ++ percentEncode specialSegmentClass _ = _
    rw [List.append_assoc]
    rfl

/-- However many segments are added, a path begins with a slash. -/
theorem rooted_foldl_pushSegment (h : Rooted path) (segments : List String) :
    Rooted (segments.foldl (pushSegment webRules) path) := by
  induction segments generalizing path with
  | nil => exact h
  | cons segment rest ih =>
      rw [List.foldl_cons]
      apply ih
      rw [pushSegment_eq h]
      cases Turn.ofSegment segment with
      | stay => exact h
      | up => exact (rooted_trunk_append h []).ascend
      | down name => exact rooted_trunk_append h _

/-- Going up takes the last segment away, unless it is the letter of a drive. -/
theorem ascend_append (before : List Char) {name : List Char} (hslash : '/' ∉ name)
    (hdrive : isDrive name = false) :
    ascend false (before ++ '/' :: name ++ ['/']) = before ++ ['/'] := by
  have hlast : (before ++ '/' :: name ++ ['/']).dropLast = before ++ '/' :: name :=
    List.dropLast_concat
  have hending : endsWithSlash (before ++ '/' :: name ++ ['/']) = true := by
    unfold endsWithSlash
    rw [List.getLast?_concat]
    rfl
  unfold ascend
  dsimp only
  rw [hlast, hending, lastSegment_append before hslash, hdrive]
  simp [dropSegment, upToSlash_append before hslash]

/-- A plain segment is added behind a slash. -/
theorem pushSegment_of_plain (h : Rooted path) {segment : String} (hplain : IsPlain segment) :
    pushSegment webRules path segment =
      trunk path ++ '/' :: percentEncode specialSegmentClass segment.toList := by
  rw [pushSegment_eq h, Turn.ofSegment_eq_down_iff.mpr hplain]

/-- A row of plain segments is added behind a path that has segments already. -/
theorem foldl_pushSegment_of_two_le {segments : List String} (h : Rooted path)
    (hlong : 2 ≤ path.length) (hplain : ∀ segment ∈ segments, IsPlain segment) :
    segments.foldl (pushSegment webRules) path =
      path ++ slashed (segments.map fun s => percentEncode specialSegmentClass s.toList) := by
  induction segments generalizing path with
  | nil => simp [slashed]
  | cons segment rest ih =>
      have hpush := pushSegment_of_plain h (hplain segment List.mem_cons_self)
      rw [trunk_of_two_le hlong] at hpush
      have hrest := ih (h.append ('/' :: percentEncode specialSegmentClass segment.toList))
        (by rw [List.length_append]; omega) fun s hs => hplain s (List.mem_cons_of_mem _ hs)
      rw [List.foldl_cons, hpush, hrest, List.map_cons, slashed, slashed, List.flatMap_cons,
        List.append_assoc]

/-- A row of plain segments is added behind any path, if the first of them is not empty. -/
theorem foldl_pushSegment_of_plain (h : Rooted path) (segment : String) (rest : List String)
    (hne : segment ≠ "") (hplain : ∀ s ∈ segment :: rest, IsPlain s) :
    (segment :: rest).foldl (pushSegment webRules) path =
      trunk path ++
        slashed ((segment :: rest).map fun s => percentEncode specialSegmentClass s.toList) := by
  have hpush := pushSegment_of_plain h (hplain segment List.mem_cons_self)
  have hescaped : percentEncode specialSegmentClass segment.toList ≠ [] := by
    intro hnil
    have hsame : percentEncode specialSegmentClass segment.toList =
        percentEncode specialSegmentClass [] := hnil
    exact hne (String.toList_eq_nil_iff.mp (percentEncode_inj rfl hsame))
  have hrooted := rooted_trunk_append h (percentEncode specialSegmentClass segment.toList)
  have hlong :
      2 ≤ (trunk path ++ '/' :: percentEncode specialSegmentClass segment.toList).length := by
    have hpos := List.length_pos_iff.mpr hescaped
    simp only [List.length_append, List.length_cons]
    omega
  rw [List.foldl_cons, hpush,
    foldl_pushSegment_of_two_le hrooted hlong fun s hs => hplain s (List.mem_cons_of_mem _ hs),
    List.map_cons, slashed, slashed, List.flatMap_cons, List.append_assoc]

end Pushing

end Url
end PatronGateway
