import PatronGateway.Proofs.Url.Segments
import PatronGateway.Token.KeySource

/-!
# The realm in the URL of its keys

The keys of a realm are published under a path in which one segment names the realm.  For most
realms this segment is the realm, escaped so that it is read back.  A realm that is written with
two dots or one, or that holds a tab or a line break, has no such segment: it is left out, loses
characters, or leads up to another path of the identity provider.

* `certsUrl_eq` gives the URL of every realm, by the turn that the realm takes.
* `namesRealm_iff` says for which realms the URL names the realm.
* `realmPath_inj` says that realms have one URL only if they take the same turn.
* `certsUrl_names_realm_iff` puts these together, and `certsUrl_misses_realms` is about realms
  that the URL does not name.
-/

namespace PatronGateway
namespace Token
namespace KeySource

open Url (Rooted Turn IsPlain trunk slashed percentEncode specialSegmentClass)

/-- The path of the base that the segments are added to: without one empty segment at its end,
and without the slash that a root consists of. -/
def stem (s : KeySource) : List Char := trunk (Url.popIfEmpty s.base.path.toChars)

/-- The segments behind the realm. -/
def certsEnding : List (List Char) :=
  ["protocol".toList, "openid-connect".toList, "certs".toList]

/-- A URL that is the one of the base with five segments behind its path, of which the second
stands for a realm: nothing in it divides segments, and the realm is read back from it. -/
def NamesRealm (s : KeySource) (realm : String) (u : Url) : Prop :=
  ∃ segment,
    u = { s.base with
      path := .rooted (s.stem ++ slashed (["realms".toList, segment] ++ certsEnding)) } ∧
    (∀ c ∈ segment, Url.endsAuthority true c = false) ∧
    Url.percentDecodeText segment = Text.Utf8.encode realm

/-- The path before the segments behind a realm, by the turn that the realm takes. -/
def realmPath (stem : List Char) : Turn → List Char
  | .stay => stem ++ slashed ["realms".toList]
  | .up => trunk (stem ++ ['/'])
  | .down name => stem ++ slashed ["realms".toList, percentEncode specialSegmentClass name]

/-- The base of a source for the web has a path that begins with a slash, and no rules for the
segments of local files. -/
theorem rooted_base {tables : Http.Charset.Tables} {settings : SourceSettings} {s : KeySource}
    (hbuild : build tables settings = .ok s) (hweb : Http.isWebScheme s.base.scheme = true) :
    (∃ path, s.base.path = .rooted path ∧ Rooted path) ∧
      Url.segmentRules s.base.scheme = Url.webRules := by
  obtain ⟨hspecial, hfile⟩ := Url.special_of_isWebScheme hweb
  refine ⟨?_, Url.segmentRules_eq_webRules hspecial hfile⟩
  unfold build at hbuild
  split at hbuild
  · cases hbuild
  · next base hread =>
      split at hbuild
      · cases hbuild
        exact Url.rooted_of_read hread hspecial hfile
      · cases hbuild

section Paths

variable {s : KeySource} {stem : List Char}

/-- What the segments up to the realm make of a path, as far as more segments are added to it. -/
theorem trunk_pushSegment_realm {path : List Char} (hrooted : Rooted path) (realm : String) :
    trunk (["realms", realm].foldl (Url.pushSegment Url.webRules) path) =
      realmPath (trunk path) (Turn.ofSegment realm) := by
  have hpush : Url.pushSegment Url.webRules path "realms" = trunk path ++ "/realms".toList :=
    Url.pushSegment_of_plain hrooted (by decide)
  have hlong (ending : List Char) : 2 ≤ (trunk path ++ "/realms".toList ++ ending).length := by
    simp
    omega
  have hrealms : Rooted (trunk path ++ "/realms".toList) := Url.rooted_trunk_append hrooted _
  have htrunk (ending : List Char) : trunk (trunk path ++ "/realms".toList ++ ending) =
      trunk path ++ "/realms".toList ++ ending := Url.trunk_of_two_le (hlong ending)
  have hbare := htrunk []
  rw [List.append_nil] at hbare
  rw [List.foldl_cons, List.foldl_cons, List.foldl_nil, hpush, Url.pushSegment_eq hrealms]
  cases Turn.ofSegment realm with
  | stay => exact hbare
  | up =>
      -- one level up from `realms`, so that only the path before it is left
      dsimp only
      rw [hbare]
      have hascend : Url.ascend false (trunk path ++ "/realms".toList ++ ['/']) =
          trunk path ++ ['/'] := Url.ascend_append (trunk path) (by decide) (by decide)
      exact congrArg trunk hascend
  | down name =>
      dsimp only
      rw [hbare, htrunk]
      simp [realmPath, slashed]

/-- The URL of a realm's keys. -/
theorem certsUrl_eq {path : List Char} (hpath : s.base.path = .rooted path) (hrooted : Rooted path)
    (hrules : Url.segmentRules s.base.scheme = Url.webRules) (realm : String) :
    s.certsUrl realm = .ok { s.base with
      path := .rooted (realmPath s.stem (Turn.ofSegment realm) ++ slashed certsEnding) } := by
  have hpopped := Url.rooted_popIfEmpty hrooted
  have hstem : s.stem = trunk (Url.popIfEmpty path) := by
    unfold KeySource.stem
    rw [hpath]
    rfl
  -- the realm is added before the last three segments, which are plain
  have hsegments : certsSegments realm =
      ["realms", realm] ++ ["protocol", "openid-connect", "certs"] := rfl
  have hending := Url.foldl_pushSegment_of_plain
    (Url.rooted_foldl_pushSegment hpopped ["realms", realm]) "protocol" ["openid-connect", "certs"]
    (by decide) (by decide)
  rw [trunk_pushSegment_realm hpopped, ← hstem] at hending
  unfold certsUrl Url.extend?
  rw [hpath]
  dsimp only
  rw [hrules, hsegments, List.foldl_append, hending]
  rfl

/-- Going up leaves a path that is shorter than the one with a realm left out. -/
theorem length_realmPath_up_lt (stem : List Char) :
    (realmPath stem .up).length < (realmPath stem .stay).length := by
  have hup : (trunk (stem ++ ['/'])).length ≤ stem.length + 1 := by
    unfold trunk
    split
    · exact Nat.zero_le _
    · simp
  have hstay : (realmPath stem .stay).length = stem.length + 7 := by
    simp [realmPath, slashed]
  rw [hstay]
  exact Nat.lt_of_le_of_lt hup (by omega)

/-- Only a name makes a segment behind `realms`, for without one the path is too short. -/
theorem eq_down_of_realmPath_eq {t : Turn} {segment : List Char}
    (h : realmPath stem t = stem ++ slashed ["realms".toList, segment]) :
    ∃ name, t = .down name ∧ segment = percentEncode specialSegmentClass name := by
  have hlength := congrArg List.length h
  have hshort : (realmPath stem .stay).length <
      (stem ++ slashed ["realms".toList, segment]).length := by
    simp [realmPath, slashed]
  cases t with
  | stay => omega
  | up =>
      have hup := length_realmPath_up_lt stem
      omega
  | down name =>
      refine ⟨name, rfl, ?_⟩
      simpa [realmPath, slashed] using h.symm

/-- Realms with the same path take the same turn. -/
theorem realmPath_inj {t t' : Turn} (h : realmPath stem t = realmPath stem t') : t = t' := by
  have hlength := congrArg List.length h
  have hup := length_realmPath_up_lt stem
  cases t' with
  | down name' =>
      obtain ⟨name, rfl, hname⟩ := eq_down_of_realmPath_eq h
      rw [Url.percentEncode_inj rfl hname]
  | stay =>
      cases t with
      | stay => rfl
      | up => omega
      | down name =>
          obtain ⟨_, hturn, -⟩ := eq_down_of_realmPath_eq h.symm
          cases hturn
  | up =>
      cases t with
      | stay => omega
      | up => rfl
      | down name =>
          obtain ⟨_, hturn, -⟩ := eq_down_of_realmPath_eq h.symm
          cases hturn

/-- The URL names the realm if the realm has no tabs or line breaks and is no dot segment. -/
theorem namesRealm_iff {realm : String} {u : Url} (hu : u = { s.base with
      path := .rooted (realmPath s.stem (Turn.ofSegment realm) ++ slashed certsEnding) }) :
    s.NamesRealm realm u ↔ IsPlain realm := by
  constructor
  · rintro ⟨segment, hpath, -, hread⟩
    have hrow : slashed (["realms".toList, segment] ++ certsEnding) =
        slashed ["realms".toList, segment] ++ slashed certsEnding := by
      simp [slashed]
    have hchars : realmPath s.stem (Turn.ofSegment realm) ++ slashed certsEnding =
        s.stem ++ slashed (["realms".toList, segment] ++ certsEnding) :=
      Url.Path.rooted.inj (congrArg Url.path (hu.symm.trans hpath))
    rw [hrow, ← List.append_assoc] at hchars
    obtain ⟨name, hturn, rfl⟩ := eq_down_of_realmPath_eq (List.append_cancel_right hchars)
    rw [Url.percentDecodeText_percentEncode rfl] at hread
    obtain rfl : name = realm.toList := Text.Utf8.flatMap_utf8EncodeChar_inj hread
    exact Turn.ofSegment_eq_down_iff.mp hturn
  · intro hplain
    refine ⟨percentEncode specialSegmentClass realm.toList, ?_, ?_, ?_⟩
    · rw [hu, Turn.ofSegment_eq_down_iff.mpr hplain]
      simp [realmPath, slashed]
    · exact fun c => Url.endsAuthority_of_mem_percentEncode
    · exact Url.percentDecodeText_percentEncode rfl realm.toList

end Paths

/-- Every realm has a URL for its keys, and that URL names the realm if and only if the realm is
neither of the dot segments and holds no tab and no line break.  Two realms have the same URL if
and only if they take the same turn; so no two realms that are named share one. -/
theorem certsUrl_names_realm_iff {tables : Http.Charset.Tables} {settings : SourceSettings}
    {s : KeySource} (hbuild : build tables settings = .ok s)
    (hweb : Http.isWebScheme s.base.scheme = true) :
    (∀ realm, ∃ u, s.certsUrl realm = .ok u ∧
      u = { s.base with
        path := .rooted (realmPath s.stem (Turn.ofSegment realm) ++ slashed certsEnding) } ∧
      (s.NamesRealm realm u ↔ IsPlain realm)) ∧
    ∀ realm realm' u u', s.certsUrl realm = .ok u → s.certsUrl realm' = .ok u' →
      (u.text = u'.text ↔ Turn.ofSegment realm = Turn.ofSegment realm') ∧
      (IsPlain realm → IsPlain realm' → u.text = u'.text → realm = realm') := by
  obtain ⟨⟨path, hpath, hrooted⟩, hrules⟩ := rooted_base hbuild hweb
  have hurl := certsUrl_eq hpath hrooted hrules
  refine ⟨fun realm => ⟨_, hurl realm, rfl, namesRealm_iff rfl⟩, ?_⟩
  intro realm realm' u u' hu hu'
  obtain rfl := Except.ok.inj ((hurl realm).symm.trans hu)
  obtain rfl := Except.ok.inj ((hurl realm').symm.trans hu')
  have hshared {t t' : Turn} (h : { s.base with
        path := .rooted (realmPath s.stem t ++ slashed certsEnding) }.text =
      { s.base with path := .rooted (realmPath s.stem t' ++ slashed certsEnding) }.text) :
      t = t' :=
    realmPath_inj (List.append_cancel_right (Url.toChars_path_inj h))
  refine ⟨⟨hshared, fun hturn => by rw [hturn]⟩, fun hplain hplain' htext => ?_⟩
  have hturn := hshared htext
  rw [Turn.ofSegment_eq_down_iff.mpr hplain, Turn.ofSegment_eq_down_iff.mpr hplain'] at hturn
  exact String.toList_inj.mp (Turn.down.inj hturn)

/-- Settings for an identity provider with a path of its own. -/
def loopbackSettings : SourceSettings :=
  { SourceSettings.default with url := "http://[::1]:8080/auth/" }

/-- The source for these settings. -/
def loopback : KeySource where
  settings := loopbackSettings
  base :=
    { scheme := "http".toList, username := [], password := none,
      host := some (.ipv6 [0, 0, 0, 0, 0, 0, 0, 1]), port := some 8080, guarded := false,
      path := .rooted "/auth/".toList, query := none, fragment := none }
  tables := .blank

/-- A realm with a slash and a question mark is named by the URL of its keys. -/
theorem certsUrl_names_realm_iff_loopback :
    build .blank loopbackSettings = .ok loopback ∧ Http.isWebScheme loopback.base.scheme = true ∧
    ∃ u, loopback.certsUrl "a/b?" = .ok u ∧ loopback.NamesRealm "a/b?" u ∧
      u.text = "http://[::1]:8080/auth/realms/a%2Fb%3F/protocol/openid-connect/certs" := by
  have hbuild : build .blank loopbackSettings = .ok loopback := rfl
  have hweb : Http.isWebScheme loopback.base.scheme = true := rfl
  obtain ⟨u, hu, hform, hnamed⟩ := (certsUrl_names_realm_iff hbuild hweb).1 "a/b?"
  refine ⟨hbuild, hweb, u, hu, hnamed.mpr (by decide), ?_⟩
  rw [hform]
  decide +kernel

/-- Not every realm is named: the dot segments are left out, a tab vanishes, so that the realm
has the URL of another one, and two dots around a line break lead out of the realms. -/
theorem certsUrl_misses_realms :
    build .blank loopbackSettings = .ok loopback ∧ Http.isWebScheme loopback.base.scheme = true ∧
    (∀ realm ∈ [".", "..", "a\tb", ".\n."],
      ∃ u, loopback.certsUrl realm = .ok u ∧ ¬ loopback.NamesRealm realm u) ∧
    loopback.certsUrl "a\tb" = loopback.certsUrl "ab" ∧
    (loopback.certsUrl ".\n.").map Url.text =
      .ok "http://[::1]:8080/auth//protocol/openid-connect/certs" := by
  have hurl := certsUrl_eq (s := loopback) rfl ⟨_, rfl⟩ rfl
  refine ⟨rfl, rfl, ?_, ?_, ?_⟩
  · intro realm hrealm
    refine ⟨_, hurl realm, fun hnamed => ?_⟩
    have hplain : ∀ realm ∈ [".", "..", "a\tb", ".\n."], ¬ IsPlain realm := by decide
    exact hplain realm hrealm ((namesRealm_iff rfl).mp hnamed)
  · rw [hurl, hurl]
    rfl
  · rw [hurl]
    apply congrArg Except.ok
    decide +kernel

end KeySource
end Token
end PatronGateway
