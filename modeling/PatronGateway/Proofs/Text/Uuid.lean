import Mathlib.Data.Bool.AllAny
import PatronGateway.Proofs.Text.Rows
import PatronGateway.Text.Blank
import PatronGateway.Text.Uuid

/-!
# The spellings of a UUID

A UUID is read from exactly four kinds of text: 32 hexadecimal digits, the digits in five groups
with hyphens between them, these groups in braces, and these groups behind the lead of a URN.  A
digit may be written with a letter of either case.  No text is a spelling in two ways, since the
four kinds differ in length.

* `Spells` is the relation between texts and UUIDs, written out, and `ofChars?_eq_some_iff` says
  that reading is just this relation.
* `Spells.isInk` and `Spells.not_isBlank` are about the characters of a spelling.
-/

namespace PatronGateway
namespace Text

/-- A digit is written with a character, in either case. -/
def Nibble.IsWritten (c : Char) (d : Nibble) : Prop := c = d.toLowerChar ∨ c = d.toUpperChar

theorem Nibble.ofChar?_eq_some_iff {c : Char} {d : Nibble} :
    Nibble.ofChar? c = some d ↔ Nibble.IsWritten c d := by
  constructor
  · intro h
    have hchar {n : Nat} (hn : n = c.toNat) : c = Char.ofNat n := by
      rw [hn, Char.ofNat_toNat]
    unfold Nibble.ofChar? at h
    dsimp only at h
    split at h
    · next hdigit =>
        obtain rfl := Option.some.inj h
        left
        unfold Nibble.toLowerChar
        dsimp only
        rw [if_pos (by omega)]
        exact hchar (by omega)
    · split at h
      · next hlower =>
          obtain rfl := Option.some.inj h
          left
          unfold Nibble.toLowerChar
          dsimp only
          rw [if_neg (by omega)]
          exact hchar (by omega)
      · split at h
        · next hupper =>
            obtain rfl := Option.some.inj h
            right
            unfold Nibble.toUpperChar
            dsimp only
            rw [if_neg (by omega)]
            exact hchar (by omega)
        · cases h
  · rintro (rfl | rfl)
    · exact Nibble.ofChar?_toLowerChar d
    · exact Nibble.ofChar?_toUpperChar d

namespace Uuid

/-- The digits of a UUID, written one after another. -/
def AreDigits (cs : List Char) (ds : List Nibble) : Prop :=
  cs.length = 32 ∧ List.Forall₂ Nibble.IsWritten cs ds

/-- A text spells a UUID. -/
inductive Spells : List Char → Uuid → Prop
  | simple {cs : List Char} {ds : List Nibble} (h : AreDigits cs ds) : Spells cs (ofNibbles ds)
  | hyphenated {cs : List Char} {ds : List Nibble} (h : AreDigits cs ds) :
      Spells (hyphenate groups cs) (ofNibbles ds)
  | braced {cs : List Char} {ds : List Nibble} (h : AreDigits cs ds) :
      Spells ('\x7b' :: (hyphenate groups cs ++ ['\x7d'])) (ofNibbles ds)
  | urn {lead cs : List Char} {ds : List Nibble} (hlead : lead.map Char.toLower = urnLead)
      (h : AreDigits cs ds) : Spells (lead ++ hyphenate groups cs) (ofNibbles ds)

section Reading

variable {cs : List Char} {ds : List Nibble} {u : Uuid}

theorem mapM_ofChar?_eq_some_iff :
    cs.mapM Nibble.ofChar? = some ds ↔ List.Forall₂ Nibble.IsWritten cs ds := by
  rw [mapM_eq_some_iff]
  constructor
  · exact List.Forall₂.imp fun _ _ => Nibble.ofChar?_eq_some_iff.mp
  · exact List.Forall₂.imp fun _ _ => Nibble.ofChar?_eq_some_iff.mpr

theorem hyphenate_cons_cons (n m : Nat) (ns : List Nat) (cs : List Char) :
    hyphenate (n :: m :: ns) cs = cs.take n ++ '-' :: hyphenate (m :: ns) (cs.drop n) := by
  rw [hyphenate]
  exact List.cons_ne_nil m ns

/-- A group is read up to its hyphen, and then the others are. -/
theorem readGroups_cons_cons_iff (n m : Nat) (ns : List Nat) :
    readGroups (n :: m :: ns) cs = some ds ↔ ∃ front rest first others,
      cs = front ++ '-' :: rest ∧ front.length = n ∧ front.mapM Nibble.ofChar? = some first ∧
        readGroups (m :: ns) rest = some others ∧ ds = first ++ others := by
  rw [readGroups]
  swap
  · exact List.cons_ne_nil m ns
  constructor
  · intro h
    obtain ⟨first, hfirst, hrest⟩ := Option.bind_eq_some_iff.mp h
    split at hrest
    · next rest hdrop =>
        obtain ⟨others, hothers, hds⟩ := Option.bind_eq_some_iff.mp hrest
        refine ⟨cs.take n, rest, first, others, ?_, ?_, hfirst, hothers, (Option.some.inj hds).symm⟩
        · rw [← hdrop, List.take_append_drop]
        · have hdropped := congrArg List.length hdrop
          rw [List.length_drop, List.length_cons] at hdropped
          rw [List.length_take]
          omega
    · cases hrest
  · rintro ⟨front, rest, first, others, rfl, hlong, hfirst, hothers, rfl⟩
    rw [List.take_left' hlong, List.drop_left' hlong, hfirst]
    exact Option.bind_eq_some_iff.mpr ⟨first, rfl, Option.bind_eq_some_iff.mpr
      ⟨others, hothers, rfl⟩⟩

/-- Groups are read if they are digits with hyphens between them. -/
theorem readGroups_eq_some_iff (n : Nat) (ns : List Nat) :
    readGroups (n :: ns) cs = some ds ↔ ∃ hs, cs = hyphenate (n :: ns) hs ∧
      hs.length = (n :: ns).foldr (· + ·) 0 ∧ hs.mapM Nibble.ofChar? = some ds := by
  induction ns generalizing n cs ds with
  | nil =>
      unfold readGroups hyphenate
      constructor
      · intro h
        split at h
        · next hlength => exact ⟨cs, rfl, by simpa using hlength, h⟩
        · cases h
      · rintro ⟨hs, rfl, hlength, hread⟩
        rw [if_pos (by simpa using hlength), hread]
  | cons m ns ih =>
      have hsum : (n :: m :: ns).foldr (· + ·) 0 = n + (m :: ns).foldr (· + ·) 0 := rfl
      rw [readGroups_cons_cons_iff, hsum]
      constructor
      · rintro ⟨front, rest, first, others, rfl, hlong, hfirst, hothers, rfl⟩
        obtain ⟨hs, rfl, hlength, hread⟩ := (ih m).mp hothers
        refine ⟨front ++ hs, ?_, ?_, mapM_append_eq_some hfirst hread⟩
        · rw [hyphenate_cons_cons, List.take_left' hlong, List.drop_left' hlong]
        · rw [List.length_append, hlong, hlength]
      · rintro ⟨hs, rfl, hlength, hread⟩
        have hlong : (hs.take n).length = n := by
          rw [List.length_take, hlength]
          omega
        have hlonger : (hs.drop n).length = (m :: ns).foldr (· + ·) 0 := by
          rw [List.length_drop, hlength, Nat.add_sub_cancel_left]
        rw [← List.take_append_drop n hs, List.mapM_append] at hread
        obtain ⟨first, hfirst, hrest⟩ := Option.bind_eq_some_iff.mp hread
        obtain ⟨others, hothers, hds⟩ := Option.bind_eq_some_iff.mp hrest
        exact ⟨hs.take n, hyphenate (m :: ns) (hs.drop n), first, others,
          hyphenate_cons_cons n m ns hs, hlong, hfirst,
          (ih m).mpr ⟨hs.drop n, rfl, hlonger, hothers⟩, (Option.some.inj hds).symm⟩

theorem length_hyphenate (h : cs.length = 32) : (hyphenate groups cs).length = 36 := by
  simp only [groups, hyphenate, List.length_append, List.length_cons, List.length_take,
    List.length_drop, h]
  rfl

theorem readHyphenated?_eq_some_iff :
    readHyphenated? cs = some u ↔
      ∃ hs ds, cs = hyphenate groups hs ∧ AreDigits hs ds ∧ u = ofNibbles ds := by
  unfold readHyphenated?
  rw [Option.map_eq_some_iff]
  constructor
  · rintro ⟨ds, hread, rfl⟩
    obtain ⟨hs, hcs, hlength, hds⟩ := (readGroups_eq_some_iff 8 [4, 4, 4, 12]).mp hread
    exact ⟨hs, ds, hcs, ⟨hlength, mapM_ofChar?_eq_some_iff.mp hds⟩, rfl⟩
  · rintro ⟨hs, ds, hcs, ⟨hlength, hds⟩, rfl⟩
    exact ⟨ds, (readGroups_eq_some_iff 8 [4, 4, 4, 12]).mpr
      ⟨hs, hcs, hlength, mapM_ofChar?_eq_some_iff.mpr hds⟩, rfl⟩

/-- What is no row of 36 characters is not read as groups. -/
theorem readHyphenated?_eq_none (h : cs.length ≠ 36) : readHyphenated? cs = none := by
  rw [Option.eq_none_iff_forall_ne_some]
  intro u hread
  obtain ⟨hs, ds, rfl, ⟨hlength, -⟩, -⟩ := readHyphenated?_eq_some_iff.mp hread
  exact h (length_hyphenate hlength)

theorem readSimple?_eq_some_iff :
    readSimple? cs = some u ↔ ∃ ds, AreDigits cs ds ∧ u = ofNibbles ds := by
  unfold readSimple? AreDigits
  split
  case isTrue hlength =>
    simp only [Option.map_eq_some_iff, mapM_ofChar?_eq_some_iff, hlength, true_and]
    exact exists_congr fun ds => and_congr_right fun _ => eq_comm
  case isFalse hlength => simp [hlength]

theorem unbraced?_eq_some_iff {inner : List Char} :
    unbraced? cs = some inner ↔ cs = '\x7b' :: (inner ++ ['\x7d']) := by
  constructor
  · intro h
    unfold unbraced? at h
    split at h
    · next rest =>
        split at h
        · next hlast =>
            obtain rfl := Option.some.inj h
            rw [List.dropLast_append_getLast? _ hlast]
        · cases h
    · cases h
  · rintro rfl
    simp [unbraced?]

theorem unurned?_eq_some_iff {inner : List Char} :
    unurned? cs = some inner ↔
      ∃ lead : List Char, lead.map Char.toLower = urnLead ∧ cs = lead ++ inner := by
  unfold unurned?
  constructor
  · intro h
    split at h
    · next hlead =>
        obtain rfl := Option.some.inj h
        exact ⟨_, hlead, (List.take_append_drop _ _).symm⟩
    · cases h
  · rintro ⟨lead, hlead, rfl⟩
    have hlength : lead.length = urnLead.length := by rw [← hlead, List.length_map]
    rw [List.take_left' hlength, List.drop_left' hlength, if_pos hlead]

end Reading

/-- What is no row of 32 characters is not read as digits alone. -/
theorem readSimple?_eq_none {cs : List Char} (h : cs.length ≠ 32) : readSimple? cs = none :=
  if_neg h

theorem readBraced_eq_none {cs : List Char} (h : cs.length ≠ 38) :
    (unbraced? cs).bind readHyphenated? = none := by
  cases hinner : unbraced? cs with
  | none => rfl
  | some inner =>
      rw [unbraced?_eq_some_iff.mp hinner] at h
      simp only [List.length_cons, List.length_append, List.length_nil] at h
      exact readHyphenated?_eq_none (by omega)

/-- A text is read if and only if it is a spelling. -/
theorem ofChars?_eq_some_iff {cs : List Char} {u : Uuid} :
    ofChars? cs = some u ↔ Spells cs u := by
  unfold ofChars?
  simp only [Option.orElse_eq_orElse, Option.orElse_eq_or, Option.or_eq_some_iff]
  constructor
  · rintro (h | ⟨-, h | ⟨-, h | ⟨-, h⟩⟩⟩)
    · obtain ⟨ds, hds, rfl⟩ := readSimple?_eq_some_iff.mp h
      exact .simple hds
    · obtain ⟨hs, ds, rfl, hds, rfl⟩ := readHyphenated?_eq_some_iff.mp h
      exact .hyphenated hds
    · obtain ⟨inner, hinner, hread⟩ := Option.bind_eq_some_iff.mp h
      obtain rfl := unbraced?_eq_some_iff.mp hinner
      obtain ⟨hs, ds, rfl, hds, rfl⟩ := readHyphenated?_eq_some_iff.mp hread
      exact .braced hds
    · obtain ⟨inner, hinner, hread⟩ := Option.bind_eq_some_iff.mp h
      obtain ⟨lead, hlead, rfl⟩ := unurned?_eq_some_iff.mp hinner
      obtain ⟨hs, ds, rfl, hds, rfl⟩ := readHyphenated?_eq_some_iff.mp hread
      exact .urn hlead hds
  · -- the kinds that are tried before are ruled out by their lengths
    rintro (hds | hds | hds | ⟨hlead, hds⟩)
    · exact Or.inl (readSimple?_eq_some_iff.mpr ⟨_, hds, rfl⟩)
    · have hlength := length_hyphenate hds.1
      exact Or.inr ⟨readSimple?_eq_none (by omega),
        Or.inl (readHyphenated?_eq_some_iff.mpr ⟨_, _, rfl, hds, rfl⟩)⟩
    · have hlength := length_hyphenate hds.1
      refine Or.inr ⟨readSimple?_eq_none ?_, Or.inr ⟨readHyphenated?_eq_none ?_, Or.inl ?_⟩⟩
      · simp [hlength]
      · simp [hlength]
      · exact Option.bind_eq_some_iff.mpr ⟨_, unbraced?_eq_some_iff.mpr rfl,
          readHyphenated?_eq_some_iff.mpr ⟨_, _, rfl, hds, rfl⟩⟩
    · next lead hs ds =>
        have hlength : (lead ++ hyphenate groups hs).length = 45 := by
          have hnine := congrArg List.length hlead
          rw [List.length_map] at hnine
          rw [List.length_append, length_hyphenate hds.1, hnine]
          rfl
        refine Or.inr ⟨readSimple?_eq_none (by omega),
          Or.inr ⟨readHyphenated?_eq_none (by omega), Or.inr ⟨readBraced_eq_none (by omega), ?_⟩⟩⟩
        exact Option.bind_eq_some_iff.mpr ⟨_, unurned?_eq_some_iff.mpr ⟨lead, hlead, rfl⟩,
          readHyphenated?_eq_some_iff.mpr ⟨_, _, rfl, hds, rfl⟩⟩

/-- A text spells one UUID at most. -/
theorem Spells.eq {cs : List Char} {u u' : Uuid} (h : Spells cs u) (h' : Spells cs u') :
    u = u' :=
  Option.some.inj ((ofChars?_eq_some_iff.mpr h).symm.trans (ofChars?_eq_some_iff.mpr h'))

section Characters

variable {cs : List Char} {c : Char} {u : Uuid}

/-- A spelling has a character for each of its digits at least. -/
theorem Spells.length_le (h : Spells cs u) : 32 ≤ cs.length := by
  cases h with
  | simple hds => exact Nat.le_of_eq hds.1.symm
  | hyphenated hds =>
      rw [length_hyphenate hds.1]
      omega
  | braced hds =>
      rw [List.length_cons, List.length_append, length_hyphenate hds.1]
      omega
  | urn hlead hds =>
      rw [List.length_append, length_hyphenate hds.1]
      omega

theorem mem_hyphenate {ns : List Nat} (h : c ∈ hyphenate ns cs) : c = '-' ∨ c ∈ cs := by
  induction ns generalizing cs with
  | nil => exact Or.inr h
  | cons n ns ih =>
      cases ns with
      | nil => exact Or.inr h
      | cons m ns =>
          unfold hyphenate at h
          rcases List.mem_append.mp h with hfront | hbehind
          · exact Or.inr (List.mem_of_mem_take hfront)
          · rcases List.mem_cons.mp hbehind with hhyphen | hrest
            · exact Or.inl hhyphen
            · exact (ih hrest).imp_right List.mem_of_mem_drop

/-- The characters of a spelling are ASCII characters that are written. -/
def IsInk (c : Char) : Prop := 0x20 < c.toNat ∧ c.toNat < 0x7F

theorem isInk_of_isWritten {d : Nibble} (h : Nibble.IsWritten c d) : IsInk c := by
  have hdigits : ∀ d : Nibble, IsInk d.toLowerChar ∧ IsInk d.toUpperChar := by
    unfold IsInk
    decide
  rcases h with rfl | rfl
  · exact (hdigits d).1
  · exact (hdigits d).2

theorem AreDigits.isInk {ds : List Nibble} (h : AreDigits cs ds) (hc : c ∈ cs) : IsInk c := by
  obtain ⟨-, hwritten⟩ := h
  induction hwritten with
  | nil => cases hc
  | cons hd _ ih =>
      rcases List.mem_cons.mp hc with rfl | hrest
      · exact isInk_of_isWritten hd
      · exact ih hrest

theorem AreDigits.isInk_hyphenate {ds : List Nibble} (h : AreDigits cs ds)
    (hc : c ∈ hyphenate groups cs) : IsInk c := by
  rcases mem_hyphenate hc with rfl | hdigit
  · exact ⟨by decide, by decide⟩
  · exact h.isInk hdigit

/-- What becomes a small letter or a colon is written. -/
theorem isInk_of_toLower (h : c.toLower ∈ urnLead) : IsInk c := by
  have hsmall : ∀ d ∈ urnLead, 57 < d.toNat ∧ d.toNat < 0x7F :=
    List.all_iff_forall_prop.mp (by decide)
  have hcode := hsmall _ h
  unfold IsInk
  unfold Char.toLower at hcode
  split at hcode
  · next hupper =>
      have hrange : 65 ≤ c.toNat ∧ c.toNat ≤ 90 := hupper
      omega
  · omega

/-- Every character of a spelling is written. -/
theorem Spells.isInk (h : Spells cs u) (hc : c ∈ cs) : IsInk c := by
  cases h with
  | simple hds => exact hds.isInk hc
  | hyphenated hds => exact hds.isInk_hyphenate hc
  | braced hds =>
      simp only [List.mem_cons, List.mem_append, List.not_mem_nil, or_false] at hc
      rcases hc with rfl | hinner | rfl
      · exact ⟨by decide, by decide⟩
      · exact hds.isInk_hyphenate hinner
      · exact ⟨by decide, by decide⟩
  | urn hlead hds =>
      rcases List.mem_append.mp hc with hfront | hbehind
      · exact isInk_of_toLower (hlead ▸ List.mem_map_of_mem hfront)
      · exact hds.isInk_hyphenate hbehind

theorem not_isBlankChar_of_isInk (h : IsInk c) : isBlankChar c = false := by
  unfold IsInk at h
  simp [isBlankChar]
  omega

/-- No spelling is blank. -/
theorem Spells.not_isBlank {s : String} (h : Spells s.toList u) : isBlank s = false := by
  have hlength := h.length_le
  unfold isBlank
  cases hcs : s.toList with
  | nil =>
      rw [hcs] at hlength
      exact absurd hlength (by decide)
  | cons c rest =>
      rw [hcs] at h
      rw [List.all_cons, not_isBlankChar_of_isInk (h.isInk List.mem_cons_self)]
      rfl

end Characters

end Uuid
end Text
end PatronGateway
