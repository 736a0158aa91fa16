import PatronGateway.Proofs.Text.Split
import PatronGateway.Proofs.Text.Utf8
import PatronGateway.Proofs.Url.Percent
import PatronGateway.Url.Form

/-!
# Form-encoded pairs are read back

In a form, a blank is written as a plus sign and every byte that is no letter, no digit and none of
four marks as a triple.  So a plus sign always stands for a blank, and the characters between the
pairs, and between a name and its value, stand nowhere else.

* `formDecodeText_formText` is the round trip of a name or a value.
* `formDecode_formEncode` is the one of a row of pairs.
-/

namespace PatronGateway
namespace Text
namespace Utf8

/-- An ASCII byte is the whole of what a character is written with. -/
theorem eq_asciiChar_of_mem {c : Char} {b : UInt8} (h : b ∈ String.utf8EncodeChar c)
    (hb : b.toNat < 0x80) : c = asciiChar b := by
  have hcode : c.val.toNat = c.toNat := rfl
  rw [String.utf8EncodeChar.eq_def] at h
  dsimp only at h
  rw [hcode] at h
  have hlong {n : Nat} (hn : 0x80 ≤ n ∧ n < 256) : b ≠ UInt8.ofNat n := by
    rintro rfl
    rw [UInt8.toNat_ofNat_of_lt' hn.2] at hb
    omega
  split at h
  case isTrue hone =>
    obtain rfl := List.mem_singleton.mp h
    unfold asciiChar
    rw [UInt8.toNat_ofNat_of_lt' (show _ < 256 by omega), Char.ofNat_toNat]
  case isFalse =>
    exfalso
    split at h
    · simp only [List.mem_cons, List.not_mem_nil, or_false] at h
      rcases h with h | h
      · exact hlong (by omega) h
      · exact hlong (by omega) h
    · split at h
      · simp only [List.mem_cons, List.not_mem_nil, or_false] at h
        rcases h with h | h | h
        · exact hlong (by omega) h
        · exact hlong (by omega) h
        · exact hlong (by omega) h
      · simp only [List.mem_cons, List.not_mem_nil, or_false] at h
        rcases h with h | h | h | h
        · exact hlong (by omega) h
        · exact hlong (by omega) h
        · exact hlong (by omega) h
        · exact hlong (by omega) h

/-- An ASCII byte occurs among the bytes of a text only where its character does. -/
theorem not_mem_flatMap_utf8EncodeChar {cs : List Char} {b : UInt8} (hb : b.toNat < 0x80)
    (h : asciiChar b ∉ cs) : b ∉ cs.flatMap String.utf8EncodeChar := by
  rw [List.mem_flatMap]
  rintro ⟨c, hc, hmem⟩
  rw [eq_asciiChar_of_mem hmem hb] at hc
  exact h hc

end Utf8
end Text

namespace Url

open Text.Utf8 (asciiChar not_mem_flatMap_utf8EncodeChar)

/-- What is written as a triple in a form. -/
abbrev formClass : CharClass := fun c => !isFormChar c

/-- Bytes with their plus signs turned into blanks. -/
def withBlanks (bs : Bytes) : Bytes := bs.map fun b => if b = 0x2B then 0x20 else b

theorem withBlanks_append (bs bs' : Bytes) :
    withBlanks (bs ++ bs') = withBlanks bs ++ withBlanks bs' := List.map_append

theorem withBlanks_of_not_mem {bs : Bytes} (h : 0x2B ∉ bs) : withBlanks bs = bs := by
  unfold withBlanks
  refine (List.map_congr_left fun b hb => ?_).trans (List.map_id bs)
  rw [if_neg]
  · rfl
  · rintro rfl
    exact h hb

/-- What is no sign of its own in a form occurs only as a blank or in a triple. -/
theorem not_mem_formByte {c : Char} (hc : isFormChar c = false) (hblank : c ≠ '+')
    (hsign : c ≠ '%') (hdigit : ∀ d : Text.Nibble, c ≠ d.toUpperChar) (b : UInt8) :
    c ∉ formByte b := by
  unfold formByte
  split
  case isTrue => simpa using hblank
  case isFalse =>
    unfold percentByte
    split
    case isTrue hplain =>
      rw [List.mem_singleton]
      rintro rfl
      simp [hc] at hplain
    case isFalse => simp [triple, hsign, hdigit]

theorem not_mem_formText {c : Char} (hc : isFormChar c = false) (hblank : c ≠ '+')
    (hsign : c ≠ '%') (hdigit : ∀ d : Text.Nibble, c ≠ d.toUpperChar) (s : String) :
    c ∉ formText s := by
  unfold formText
  rw [List.mem_flatMap]
  rintro ⟨b, -, hmem⟩
  exact not_mem_formByte hc hblank hsign hdigit b hmem

section Reading

/-- A byte of a name or a value is read back, whatever follows it. -/
theorem percentDecode_formByte (b : UInt8) (bs : Bytes) :
    percentDecode (withBlanks ((formByte b).flatMap String.utf8EncodeChar) ++ bs) =
      b :: percentDecode bs := by
  unfold formByte
  split
  case isTrue hblank =>
    rw [hblank]
    exact percentDecode_cons_of_ne (by decide) bs
  case isFalse =>
    have hplus : '+' ∉ percentByte formClass b := by
      unfold percentByte
      split
      case isTrue hplain =>
        rw [List.mem_singleton]
        intro hsame
        rw [← hsame] at hplain
        exact absurd hplain.2 (by decide)
      case isFalse =>
        have hdigit : ∀ d : Text.Nibble, '+' ≠ d.toUpperChar := by decide
        simp [triple, hdigit]
    have hbytes := not_mem_flatMap_utf8EncodeChar (b := 0x2B) (by decide) hplus
    rw [withBlanks_of_not_mem hbytes]
    exact percentDecode_percentByte rfl b bs

/-- The bytes of a name or a value are read back. -/
theorem percentDecode_formBytes (bs : Bytes) :
    percentDecode (withBlanks ((bs.flatMap formByte).flatMap String.utf8EncodeChar)) = bs := by
  induction bs with
  | nil => simp [withBlanks, percentDecode]
  | cons b bs ih =>
      rw [List.flatMap_cons, List.flatMap_append, withBlanks_append, percentDecode_formByte, ih]

/-- A name or a value is read back. -/
theorem formDecodeText_formText (s : String) :
    formDecodeText ((formText s).flatMap String.utf8EncodeChar) = s := by
  have hbytes : percentDecode (withBlanks ((formText s).flatMap String.utf8EncodeChar)) =
      Text.Utf8.encode s := percentDecode_formBytes (Text.Utf8.encode s)
  unfold formDecodeText
  unfold withBlanks at hbytes
  rw [hbytes, Text.Utf8.decodeLossy_encode]

/-- The bytes of a pair: the first sign of equality divides its name from its value. -/
theorem flatMap_formPair (p : String × String) :
    (formPair p).flatMap String.utf8EncodeChar =
      (formText p.1).flatMap String.utf8EncodeChar ++
        0x3D :: (formText p.2).flatMap String.utf8EncodeChar := by
  unfold formPair
  rw [List.flatMap_append, List.flatMap_cons]
  rfl

theorem formDecodePair_formPair (p : String × String) :
    formDecodePair ((formPair p).flatMap String.utf8EncodeChar) = p := by
  have hname : 0x3D ∉ (formText p.1).flatMap String.utf8EncodeChar :=
    not_mem_flatMap_utf8EncodeChar (by decide)
      (not_mem_formText (by decide) (by decide) (by decide) (by decide) p.1)
  have hcut := Text.splitFirst?_eq_some_iff.mpr ⟨flatMap_formPair p, hname⟩
  unfold formDecodePair
  rw [hcut]
  dsimp only
  rw [formDecodeText_formText, formDecodeText_formText]

/-- Nothing in a pair divides it from other pairs. -/
theorem not_mem_formPair (p : String × String) :
    0x26 ∉ (formPair p).flatMap String.utf8EncodeChar := by
  have htext (s : String) : '&' ∉ formText s :=
    not_mem_formText (by decide) (by decide) (by decide) (by decide) s
  apply not_mem_flatMap_utf8EncodeChar (by decide)
  show '&' ∉ formPair p
  simp [formPair, htext]

/-- The pieces of a row of pairs are the pairs. -/
theorem splitOn_formEncode {pairs : List (String × String)} (hne : pairs ≠ []) :
    Text.splitOn 0x26 ((formEncode pairs).flatMap String.utf8EncodeChar) =
      pairs.map fun p => (formPair p).flatMap String.utf8EncodeChar := by
  induction pairs with
  | nil => exact absurd rfl hne
  | cons p rest ih =>
      cases rest with
      | nil => exact Text.splitOn_of_not_mem (not_mem_formPair p)
      | cons q rest =>
          have hrow : (formEncode (p :: q :: rest)).flatMap String.utf8EncodeChar =
              (formPair p).flatMap String.utf8EncodeChar ++
                0x26 :: (formEncode (q :: rest)).flatMap String.utf8EncodeChar := by
            show (formPair p ++ '&' :: formEncode (q :: rest)).flatMap String.utf8EncodeChar = _
            rw [List.flatMap_append, List.flatMap_cons]
            rfl
          rw [hrow, Text.splitOn_append (not_mem_formPair p), ih (List.cons_ne_nil q rest)]
          rfl

/-- A row of pairs is read back. -/
theorem formDecode_formEncode (pairs : List (String × String)) :
    formDecode (String.ofList (formEncode pairs)) = pairs := by
  unfold formDecode Text.Utf8.encode
  rw [String.toList_ofList]
  cases pairs with
  | nil => rfl
  | cons p rest =>
      rw [splitOn_formEncode (List.cons_ne_nil p rest), List.filter_map]
      have hfull : ∀ q : String × String,
          ((fun piece : Bytes => !piece.isEmpty) ∘
            fun q => (formPair q).flatMap String.utf8EncodeChar) q = true := by
        intro q
        simp [flatMap_formPair q]
      rw [List.filter_eq_self.mpr fun q _ => hfull q, List.map_map]
      apply List.map_id''
      exact formDecodePair_formPair

end Reading

end Url
end PatronGateway
