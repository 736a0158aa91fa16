import PatronGateway.Proofs.Text.Ascii
import PatronGateway.Url.Percent

/-!
# Percent coding comes undone

A class of characters that contains the percent sign makes a text that is read back: every
percent sign of the text begins a triple, so reading finds the triples that were written and no
others.  Such a text determines what it was made from, and of the characters of the class only
the percent sign and the digits of triples occur in it.

* `percentDecodeText_percentEncode` is the round trip.
* `percentEncode_inj` says that different texts stay different.
* `not_mem_percentEncode` says which characters do not occur, and `percentEncode_eq_self` which
  texts stay as they are.
-/

namespace PatronGateway
namespace Text

namespace Nibble

/-- The digit of a triple is an ASCII character. -/
theorem utf8EncodeChar_toUpperChar (d : Nibble) :
    String.utf8EncodeChar d.toUpperChar = [UInt8.ofNat d.toUpperChar.toNat] := by
  revert d
  decide

/-- The halves of a byte make the byte. -/
theorem byte_high_low (b : UInt8) : byte (high b) (low b) = b := by
  have hb := b.toNat_lt
  apply UInt8.toNat_inj.mp
  simp only [byte, high, low, Fin.val_ofNat, UInt8.toNat_ofNat']
  omega

end Nibble

namespace Utf8

/-- Texts with the same bytes are the same. -/
theorem flatMap_utf8EncodeChar_inj {cs cs' : List Char}
    (h : cs.flatMap String.utf8EncodeChar = cs'.flatMap String.utf8EncodeChar) : cs = cs' := by
  have hbytes : cs.utf8Encode = cs'.utf8Encode := congrArg List.toByteArray h
  rw [← String.toByteArray_ofList, ← String.toByteArray_ofList, String.toByteArray_inj] at hbytes
  exact String.ofList_injective hbytes

end Utf8
end Text

namespace Url

open Text (Nibble)
open Text.Utf8 (asciiChar)

theorem nibbleOfByte?_toUpperChar (d : Nibble) :
    nibbleOfByte? (UInt8.ofNat d.toUpperChar.toNat) = some d := by
  revert d
  decide

theorem percentDecode_cons_of_ne {b : UInt8} (h : b ≠ percentSign) (bs : Bytes) :
    percentDecode (b :: bs) = b :: percentDecode bs := by
  match bs with
  | [] => simp [percentDecode]
  | [a] => simp [percentDecode]
  | a :: a' :: rest => rw [percentDecode, if_neg h]

theorem percentDecode_triple (b : UInt8) (bs : Bytes) :
    percentDecode ((triple b).flatMap String.utf8EncodeChar ++ bs) = b :: percentDecode bs := by
  have hsign : String.utf8EncodeChar '%' = [percentSign] := rfl
  simp only [triple, List.flatMap_cons, List.flatMap_nil, List.append_nil, hsign,
    Nibble.utf8EncodeChar_toUpperChar, List.cons_append, List.nil_append]
  rw [percentDecode, if_pos rfl, nibbleOfByte?_toUpperChar, nibbleOfByte?_toUpperChar]
  simp only [Nibble.byte_high_low]

section RoundTrip

variable {escaped : CharClass} (hsign : escaped '%' = true)
include hsign

theorem percentDecode_percentByte (b : UInt8) (bs : Bytes) :
    percentDecode ((percentByte escaped b).flatMap String.utf8EncodeChar ++ bs) =
      b :: percentDecode bs := by
  unfold percentByte
  split
  case isTrue hplain =>
    obtain ⟨hascii, hnot⟩ := hplain
    have hne : b ≠ percentSign := by
      rintro rfl
      have hchar : Char.ofNat percentSign.toNat = '%' := rfl
      rw [hchar, hsign] at hnot
      exact absurd hnot (by decide)
    have hbyte : String.utf8EncodeChar (Char.ofNat b.toNat) = [b] :=
      Text.Utf8.utf8EncodeChar_asciiChar hascii
    rw [List.flatMap_singleton, hbyte]
    exact percentDecode_cons_of_ne hne bs
  case isFalse => exact percentDecode_triple b bs

theorem percentDecode_percentBytes (bs : Bytes) :
    percentDecode ((percentBytes escaped bs).flatMap String.utf8EncodeChar) = bs := by
  induction bs with
  | nil => simp [percentBytes, percentDecode]
  | cons b bs ih =>
      rw [percentBytes, List.flatMap_cons, List.flatMap_append,
        percentDecode_percentByte hsign, ← percentBytes, ih]

end RoundTrip

/-- A text is escaped byte by byte. -/
theorem percentEncode_eq_percentBytes (escaped : CharClass) (cs : List Char) :
    percentEncode escaped cs = percentBytes escaped (cs.flatMap String.utf8EncodeChar) := by
  unfold percentEncode percentBytes
  rw [List.flatMap_assoc]
  rfl

/-- What is escaped is read back, if a percent sign is. -/
theorem percentDecodeText_percentEncode {escaped : CharClass} (hsign : escaped '%' = true)
    (cs : List Char) :
    percentDecodeText (percentEncode escaped cs) = cs.flatMap String.utf8EncodeChar := by
  rw [percentDecodeText, percentEncode_eq_percentBytes, percentDecode_percentBytes hsign]

/-- Different texts are written differently, if a percent sign is escaped. -/
theorem percentEncode_inj {escaped : CharClass} (hsign : escaped '%' = true)
    {cs cs' : List Char} (h : percentEncode escaped cs = percentEncode escaped cs') : cs = cs' := by
  have hdecoded := congrArg percentDecodeText h
  rw [percentDecodeText_percentEncode hsign, percentDecodeText_percentEncode hsign] at hdecoded
  exact Text.Utf8.flatMap_utf8EncodeChar_inj hdecoded

/-- A character that is escaped does not occur, unless it is part of a triple. -/
theorem not_mem_percentEncode {escaped : CharClass} {c : Char} (hc : escaped c = true)
    (hsign : c ≠ '%') (hdigit : ∀ d : Nibble, c ≠ d.toUpperChar) (cs : List Char) :
    c ∉ percentEncode escaped cs := by
  rw [percentEncode_eq_percentBytes, percentBytes, List.mem_flatMap]
  rintro ⟨b, -, hmem⟩
  unfold percentByte at hmem
  split at hmem
  case isTrue hplain =>
    obtain rfl := List.mem_singleton.mp hmem
    rw [hc] at hplain
    exact absurd hplain.2 (by decide)
  case isFalse =>
    simp only [triple, List.mem_cons, List.not_mem_nil, or_false] at hmem
    rcases hmem with h | h | h
    · exact hsign h
    · exact hdigit _ h
    · exact hdigit _ h

/-- ASCII characters outside of a class are written as they are. -/
theorem percentEncode_eq_self {escaped : CharClass} {cs : List Char}
    (h : ∀ c ∈ cs, c.toNat < 0x80 ∧ escaped c = false) : percentEncode escaped cs = cs := by
  induction cs with
  | nil => rfl
  | cons c cs ih =>
      obtain ⟨hascii, hplain⟩ := h c List.mem_cons_self
      have hcode : (UInt8.ofNat c.toNat).toNat = c.toNat :=
        UInt8.toNat_ofNat_of_lt' (show _ < 256 by omega)
      have hbyte : asciiChar (UInt8.ofNat c.toNat) = c := by
        unfold asciiChar
        rw [hcode, Char.ofNat_toNat]
      have hbytes : String.utf8EncodeChar c = [UInt8.ofNat c.toNat] := by
        have hone := Text.Utf8.utf8EncodeChar_asciiChar (hcode.symm ▸ hascii)
        rwa [hbyte] at hone
      have hchar : percentChar escaped c = [c] := by
        unfold percentChar percentBytes percentByte
        rw [hbytes, List.flatMap_singleton, hcode, Char.ofNat_toNat,
          if_pos ⟨hascii, by rw [hplain]; rfl⟩]
      rw [percentEncode, List.flatMap_cons, hchar, ← percentEncode,
        ih fun d hd => h d (List.mem_cons_of_mem _ hd)]
      rfl

end Url
end PatronGateway
