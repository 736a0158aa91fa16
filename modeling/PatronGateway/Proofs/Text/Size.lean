import PatronGateway.Proofs.Text.Utf8

/-!
# Reading does not make a text smaller

A text that has been read from bytes is never smaller than these bytes, as long as they count as
UTF-8: a code point is written again with as many bytes as it has been read from, and what stands
for an undecodable stretch is written with three, while no stretch is longer than that.

* `Fits` is the invariant of a sequence that is open: whatever it is completed to needs all its
  bytes.
* `Progress.covers_feed` is the step for one byte, and `length_le_decodeLossy` the result.
-/

namespace PatronGateway
namespace Text
namespace Utf8

/-- The number of bytes that code points are written with. -/
def width : List Char → Nat
  | [] => 0
  | c :: cs => c.utf8Size + width cs

@[simp] theorem width_nil : width [] = 0 := rfl

@[simp] theorem width_cons (c : Char) (cs : List Char) :
    width (c :: cs) = c.utf8Size + width cs := rfl

theorem width_append (cs ds : List Char) : width (cs ++ ds) = width cs + width ds := by
  induction cs with
  | nil => simp
  | cons c cs ih =>
      rw [List.cons_append, width_cons, width_cons, ih, Nat.add_assoc]

theorem width_reverse (cs : List Char) : width cs.reverse = width cs := by
  induction cs with
  | nil => rfl
  | cons c cs ih =>
      rw [List.reverse_cons, width_append, ih, width_cons, width_cons, width_nil]
      omega

theorem length_flatMap_utf8EncodeChar (cs : List Char) :
    (cs.flatMap String.utf8EncodeChar).length = width cs := by
  induction cs with
  | nil => rfl
  | cons c cs ih =>
      rw [List.flatMap_cons, List.length_append, String.length_utf8EncodeChar, ih, width_cons]

theorem utf8ByteSize_ofList (cs : List Char) : (String.ofList cs).utf8ByteSize = width cs := by
  induction cs with
  | nil => rfl
  | cons c cs ih =>
      have hcons : String.ofList (c :: cs) = String.singleton c ++ String.ofList cs := by
        rw [String.singleton_eq_ofList, ← String.ofList_append]
        rfl
      rw [hcons, String.utf8ByteSize_append, String.utf8ByteSize_singleton, ih, width_cons]

/-- A text is as large as what it is written with. -/
theorem length_encode (s : String) : (encode s).length = s.utf8ByteSize := by
  have hsize := utf8ByteSize_ofList s.toList
  rw [String.ofList_toList] at hsize
  rw [hsize]
  exact length_flatMap_utf8EncodeChar s.toList

theorem utf8Size_ofNat {v : Nat} (h : v.isValidChar) : (Char.ofNat v).utf8Size =
    if v ≤ 0x7F then 1 else if v ≤ 0x7FF then 2 else if v ≤ 0xFFFF then 3 else 4 := by
  have hval : (Char.ofNat v).val.toNat = v := by
    unfold Char.ofNat
    rw [dif_pos h]
    rfl
  unfold Char.utf8Size
  simp only [UInt32.le_iff_toNat_le, hval]
  rfl

/-- A code point that does not fit into fewer bytes needs its number of them. -/
theorem le_utf8Size_ofNat {v bytes : Nat} (hvalid : v < 0xD800 ∨ 0xDFFF < v ∧ v < 0x110000)
    (hbytes : bytes ≤ 2 ∧ 0x80 ≤ v ∨ bytes ≤ 3 ∧ 0x800 ≤ v ∨ bytes ≤ 4 ∧ 0x10000 ≤ v) :
    bytes ≤ (Char.ofNat v).utf8Size := by
  rw [utf8Size_ofNat hvalid]
  split
  · omega
  · split
    · omega
    · split <;> omega

/-! ## Sequences that are open -/

/-- A sequence of which some bytes have been read is open, and whatever it is completed to needs
all its bytes.  The code points that it may become are those between the two bounds. -/
inductive Fits : Nat → Position → Prop
  | start : Fits 0 .start
  | inside {consumed awaited low high bits : Nat} (hawaited : 1 ≤ awaited) (hlow : 0x80 ≤ low)
      (hhigh : high ≤ 0xBF) (hshort : consumed + awaited ≤ 4)
      (hneeds : ∀ v, (bits * 64 + (low - 0x80)) * 64 ^ (awaited - 1) ≤ v →
        v < (bits * 64 + (high - 0x80) + 1) * 64 ^ (awaited - 1) →
        consumed + awaited ≤ (Char.ofNat v).utf8Size) :
      Fits consumed (.inside awaited low high bits)

section

variable {low high bits : Nat}

/-- Two bytes are needed from U+0080 on. -/
theorem fits_two (h : 2 ≤ bits ∧ bits ≤ 0x1F) : Fits 1 (.inside 1 0x80 0xBF bits) := by
  refine .inside (by omega) (by omega) (by omega) (by omega) fun v hlo hhi => ?_
  exact le_utf8Size_ofNat (by omega) (by omega)

/-- Three bytes are needed from U+0800 on, and make no half of a surrogate pair. -/
theorem fits_three (hlow : 0x80 ≤ low) (hhigh : high ≤ 0xBF)
    (hneeds : 0x20 ≤ bits * 64 + (low - 0x80))
    (hvalid : bits * 64 + (high - 0x80) < 0x360 ∨ 0xE ≤ bits ∧ bits ≤ 0xF) :
    Fits 1 (.inside 2 low high bits) := by
  refine .inside (by omega) hlow hhigh (by omega) fun v hlo hhi => ?_
  exact le_utf8Size_ofNat (by omega) (by omega)

/-- Four bytes are needed from U+10000 on, and make nothing beyond the last code point. -/
theorem fits_four (hlow : 0x80 ≤ low) (hhigh : high ≤ 0xBF)
    (hneeds : 0x10 ≤ bits * 64 + (low - 0x80))
    (hvalid : bits * 64 + (high - 0x80) < 0x110) : Fits 1 (.inside 3 low high bits) := by
  refine .inside (by omega) hlow hhigh (by omega) fun v hlo hhi => ?_
  exact le_utf8Size_ofNat (by omega) (by omega)

end

/-- The leading bytes of sequences lie between two bounds. -/
theorem bounds_of_lead {b : UInt8} {l : Lead} (h : lead? b = some l) :
    0xC2 ≤ b.toNat ∧ b.toNat ≤ 0xF4 := by
  unfold lead? at h
  grind

/-- Behind a leading byte, the sequence fits: the bounds for the next byte see to it that no code
point could be written with fewer bytes, and that each is one. -/
theorem fits_of_lead {b : UInt8} {l : Lead} (h : lead? b = some l) :
    Fits 1 (.inside l.following l.low l.high l.bits) := by
  have hbounds := bounds_of_lead h
  rw [← UInt8.ofNat_toNat (x := b)] at h
  generalize b.toNat = n at h hbounds
  by_cases htwo : n ≤ 0xDF
  · rw [lead?_two ⟨hbounds.1, htwo⟩] at h
    cases h
    exact fits_two (show 2 ≤ n - 0xC0 ∧ n - 0xC0 ≤ 0x1F by omega)
  · by_cases hthree : n ≤ 0xEF
    · rw [lead?_three ⟨by omega, hthree⟩] at h
      cases h
      dsimp only
      exact fits_three (by split <;> omega) (by split <;> omega) (by split <;> omega)
        (by split <;> omega)
    · rw [lead?_four ⟨by omega, hbounds.2⟩] at h
      cases h
      dsimp only
      exact fits_four (by split <;> omega) (by split <;> omega) (by split <;> omega)
        (by split <;> omega)

/-- A byte in its bounds keeps a sequence open, and makes it one byte longer. -/
theorem Fits.next {consumed awaited low high bits n : Nat}
    (h : Fits consumed (.inside (awaited + 2) low high bits)) (hn : low ≤ n ∧ n ≤ high) :
    Fits (consumed + 1) (.inside (awaited + 1) 0x80 0xBF (bits * 64 + (n - 0x80))) := by
  cases h with
  | inside hawaited hlow hhigh hshort hneeds =>
      refine .inside (by omega) (by omega) (by omega) (by omega) fun v hlo hhi => ?_
      -- the bounds that are left lie between those that there were
      have hpow : 64 ^ (awaited + 2 - 1) = 64 * 64 ^ (awaited + 1 - 1) := by
        rw [Nat.add_sub_cancel, show awaited + 2 - 1 = awaited + 1 from rfl, Nat.pow_succ,
          Nat.mul_comm]
      have hneeds := hneeds v
      rw [hpow, ← Nat.mul_assoc, ← Nat.mul_assoc] at hneeds
      have hsum : consumed + 1 + (awaited + 1) = consumed + (awaited + 2) := by omega
      rw [hsum]
      exact hneeds (Nat.le_trans (Nat.mul_le_mul_right _ (by omega)) hlo)
        (Nat.lt_of_lt_of_le hhi (Nat.mul_le_mul_right _ (by omega)))

/-- The last byte of a sequence completes it to a code point that needs all its bytes. -/
theorem Fits.last {consumed low high bits n : Nat}
    (h : Fits consumed (.inside 1 low high bits)) (hn : low ≤ n ∧ n ≤ high) :
    consumed + 1 ≤ (Char.ofNat (bits * 64 + (n - 0x80))).utf8Size := by
  cases h with
  | inside hawaited hlow hhigh hshort hneeds =>
      exact hneeds _ (by omega) (by omega)

/-! ## Reading -/

/-- What code points and undecodable stretches are written with, in number of bytes. -/
def widthOf (read : List (Option Char)) : Nat := width (read.map (·.getD '\uFFFD'))

@[simp] theorem widthOf_some (c : Char) (read : List (Option Char)) :
    widthOf (some c :: read) = c.utf8Size + widthOf read := width_cons _ _

@[simp] theorem widthOf_none (read : List (Option Char)) :
    widthOf (none :: read) = 3 + widthOf read := width_cons _ _

namespace Progress

/-- So many bytes have been read, and what they have been read into is not smaller, up to the
sequence that is open. -/
def Covers (p : Progress) (bytes : Nat) : Prop :=
  ∃ consumed, Fits consumed p.position ∧ bytes ≤ widthOf p.reversed + consumed

theorem covers_begin {p : Progress} {bytes : Nat} (h : bytes ≤ widthOf p.reversed) (b : UInt8) :
    (p.push (begin b)).Covers (bytes + 1) := by
  unfold begin
  split
  · have hpos := (Char.ofNat b.toNat).utf8Size_pos
    refine ⟨0, .start, ?_⟩
    simp only [push, widthOf_some]
    omega
  · cases hlead : lead? b with
    | some l => exact ⟨1, fits_of_lead hlead, Nat.succ_le_succ h⟩
    | none =>
        refine ⟨0, .start, ?_⟩
        simp only [push, widthOf_none]
        omega

/-- One byte more has been read. -/
theorem covers_feed {p : Progress} {bytes : Nat} (h : p.Covers bytes) (b : UInt8) :
    (p.feed b).Covers (bytes + 1) := by
  obtain ⟨consumed, hfits, hbytes⟩ := h
  obtain ⟨position, reversed⟩ := p
  cases position with
  | start =>
      cases hfits
      exact covers_begin hbytes b
  | inside awaited low high bits =>
      have hshort : consumed ≤ 3 := by
        cases hfits with
        | inside hawaited _ _ hshort _ => omega
      unfold feed
      dsimp only at hbytes ⊢
      split
      · rename_i hn
        match awaited with
        | 0 =>
            cases hfits with
            | inside hawaited => cases hawaited
        | 1 =>
            have hlast := hfits.last hn
            refine ⟨0, .start, ?_⟩
            simp only [push, widthOf_some, Nat.le_refl, if_true]
            omega
        | awaited + 2 =>
            rw [if_neg (by omega)]
            exact ⟨consumed + 1, hfits.next hn, by simp only [push]; omega⟩
      · -- the sequence breaks off, and the byte begins something new
        apply covers_begin
        simp only [push, widthOf_none]
        omega

theorem covers_foldl {p : Progress} {bytes : Nat} (h : p.Covers bytes) (bs : Bytes) :
    (bs.foldl feed p).Covers (bytes + bs.length) := by
  induction bs generalizing p bytes with
  | nil => exact h
  | cons b bs ih =>
      have hrest := ih (covers_feed h b)
      rw [Nat.add_assoc, Nat.add_comm 1] at hrest
      exact hrest

/-- At the end, what is still open counts as a stretch. -/
theorem le_widthOf_finish {p : Progress} {bytes : Nat} (h : p.Covers bytes) :
    bytes ≤ widthOf p.finish := by
  obtain ⟨consumed, hfits, hbytes⟩ := h
  have hreverse (read : List (Option Char)) : widthOf read.reverse = widthOf read := by
    unfold widthOf
    rw [List.map_reverse, width_reverse]
  unfold finish
  cases hposition : p.position with
  | start =>
      rw [hposition] at hfits
      cases hfits
      dsimp only
      rw [hreverse]
      exact hbytes
  | inside awaited low high bits =>
      rw [hposition] at hfits
      cases hfits with
      | inside hawaited _ _ hshort _ =>
          dsimp only
          rw [hreverse, widthOf_none]
          omega

end Progress

/-- Bytes are read into a text that is not smaller. -/
theorem length_le_decodeLossy (bs : Bytes) : bs.length ≤ (decodeLossy bs).utf8ByteSize := by
  have hstart : Progress.Covers ⟨.start, []⟩ 0 := ⟨0, .start, Nat.le_refl 0⟩
  have hread := Progress.le_widthOf_finish (Progress.covers_foldl hstart bs)
  rw [Nat.zero_add] at hread
  unfold decodeLossy
  rw [utf8ByteSize_ofList]
  exact hread

end Utf8
end Text
end PatronGateway
