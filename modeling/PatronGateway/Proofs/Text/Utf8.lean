import PatronGateway.Proofs.Text.Ascii

/-!
# What is written in UTF-8 is read back

A code point is written with one to four bytes, and reading them leads from the start of a code
point to the start of the next one.  Behind a leading byte the reading waits for as many bytes as
the byte announces; each of them lies in the bounds that hold for it, which are narrower for the
first one where a code point could otherwise be written with fewer bytes or would be half of a
surrogate pair.

* `foldl_feed_utf8EncodeChar` is the case of one code point.
* `scan_encode` is the round trip, and `decodeLossy_encode` is what the reader makes of it that
  takes any bytes.
-/

namespace PatronGateway
namespace Text
namespace Utf8

/-! ## Leading bytes -/

/-- The leading byte of two. -/
theorem lead?_two {n : Nat} (h : 0xC2 ≤ n ∧ n ≤ 0xDF) :
    lead? (UInt8.ofNat n) = some ⟨1, 0x80, 0xBF, n - 0xC0⟩ := by
  unfold lead?
  rw [UInt8.toNat_ofNat_of_lt' (show _ < 256 by omega)]
  simp [h.1, h.2]

/-- The leading byte of three.  The second byte says that two would not do, and that the code
point is no half of a surrogate pair. -/
theorem lead?_three {n : Nat} (h : 0xE0 ≤ n ∧ n ≤ 0xEF) :
    lead? (UInt8.ofNat n) =
      some ⟨2, if n = 0xE0 then 0xA0 else 0x80, if n = 0xED then 0x9F else 0xBF, n - 0xE0⟩ := by
  unfold lead?
  rw [UInt8.toNat_ofNat_of_lt' (show _ < 256 by omega)]
  have htwo : ¬ n ≤ 0xDF := by omega
  by_cases hfirst : n = 0xE0
  · subst hfirst
    rfl
  · by_cases hsurrogate : n = 0xED
    · subst hsurrogate
      rfl
    · have hrest : 0xE1 ≤ n := by omega
      simp [htwo, hfirst, hsurrogate, hrest, h.2]

/-- The leading byte of four.  The second byte says that three would not do, and that the code
point is not beyond the last one. -/
theorem lead?_four {n : Nat} (h : 0xF0 ≤ n ∧ n ≤ 0xF4) :
    lead? (UInt8.ofNat n) =
      some ⟨3, if n = 0xF0 then 0x90 else 0x80, if n = 0xF4 then 0x8F else 0xBF, n - 0xF0⟩ := by
  obtain rfl | rfl | rfl | rfl | rfl :
      n = 0xF0 ∨ n = 0xF1 ∨ n = 0xF2 ∨ n = 0xF3 ∨ n = 0xF4 := by
    omega
  all_goals rfl

section Feeding

variable {n low high bits awaited : Nat} (reversed : List (Option Char))

/-- A leading byte opens a sequence. -/
theorem feed_lead (hn : 0x80 ≤ n ∧ n < 256)
    (hlead : lead? (UInt8.ofNat n) = some ⟨awaited, low, high, bits⟩) :
    Progress.feed ⟨.start, reversed⟩ (UInt8.ofNat n) =
      ⟨.inside awaited low high bits, reversed⟩ := by
  have hascii : ¬ (UInt8.ofNat n).toNat < 0x80 := by
    rw [UInt8.toNat_ofNat_of_lt' hn.2]
    omega
  unfold Progress.feed begin
  dsimp only
  rw [if_neg hascii, hlead]
  rfl

/-- A byte in its bounds brings its six bits, and more bytes are waited for. -/
theorem feed_inside (hn : low ≤ n ∧ n ≤ high) (hhigh : high < 256) :
    Progress.feed ⟨.inside (awaited + 2) low high bits, reversed⟩ (UInt8.ofNat n) =
      ⟨.inside (awaited + 1) 0x80 0xBF (bits * 64 + (n - 0x80)), reversed⟩ := by
  unfold Progress.feed
  dsimp only
  rw [UInt8.toNat_ofNat_of_lt' (show _ < 256 by omega), if_pos hn, if_neg (by omega)]
  rfl

/-- The last byte completes the code point. -/
theorem feed_last (hn : low ≤ n ∧ n ≤ high) (hhigh : high < 256) :
    Progress.feed ⟨.inside 1 low high bits, reversed⟩ (UInt8.ofNat n) =
      ⟨.start, some (Char.ofNat (bits * 64 + (n - 0x80))) :: reversed⟩ := by
  unfold Progress.feed
  dsimp only
  rw [UInt8.toNat_ofNat_of_lt' (show _ < 256 by omega), if_pos hn, if_pos (Nat.le_refl 1)]
  rfl

end Feeding

/-! ## Code points -/

/-- The bytes of a code point are read as that code point. -/
theorem foldl_feed_utf8EncodeChar (c : Char) (reversed : List (Option Char)) :
    (String.utf8EncodeChar c).foldl Progress.feed ⟨.start, reversed⟩ =
      ⟨.start, some c :: reversed⟩ := by
  have hvalid : c.toNat < 0xD800 ∨ 0xDFFF < c.toNat ∧ c.toNat < 0x110000 := c.valid
  have hchar : ∀ v, v = c.toNat → some (Char.ofNat v) = some c := by
    rintro v rfl
    rw [Char.ofNat_toNat]
  have hcode : c.val.toNat = c.toNat := rfl
  rw [String.utf8EncodeChar.eq_def]
  dsimp only
  rw [hcode]
  generalize c.toNat = v at hvalid hchar ⊢
  split
  case isTrue hone =>
    have hascii : ∀ b ∈ [UInt8.ofNat v], b.toNat < 0x80 := by
      intro b hb
      rw [List.mem_singleton.mp hb, UInt8.toNat_ofNat_of_lt' (show _ < 256 by omega)]
      omega
    rw [foldl_feed_ascii hascii reversed]
    have hsame : some (asciiChar (UInt8.ofNat v)) = some c :=
      hchar _ (UInt8.toNat_ofNat_of_lt' (show _ < 256 by omega))
    simp [hsame]
  case isFalse hone =>
    -- the conditions on the number of bytes hold from here on
    simp only [List.foldl_cons, List.foldl_nil, apply_ite (List.foldl Progress.feed _)]
    split
    case isTrue htwo =>
      rw [feed_lead reversed (by omega) (lead?_two (by omega)),
        feed_last reversed (by omega) (by omega), hchar _ (by omega)]
    case isFalse htwo =>
      split
      case isTrue hthree =>
        rw [feed_lead reversed (by omega) (lead?_three (by omega)),
          feed_inside reversed (by split <;> split <;> omega) (by split <;> omega),
          feed_last reversed (by omega) (by omega), hchar _ (by omega)]
      case isFalse hthree =>
        rw [feed_lead reversed (by omega) (lead?_four (by omega)),
          feed_inside reversed (by split <;> split <;> omega) (by split <;> omega),
          feed_inside reversed (by omega) (by omega),
          feed_last reversed (by omega) (by omega), hchar _ (by omega)]

/-- Between two code points, a text is read code point by code point. -/
theorem foldl_feed_encode (cs : List Char) (reversed : List (Option Char)) :
    (cs.flatMap String.utf8EncodeChar).foldl Progress.feed ⟨.start, reversed⟩ =
      ⟨.start, (cs.map some).reverse ++ reversed⟩ := by
  induction cs generalizing reversed with
  | nil => rfl
  | cons c cs ih =>
      rw [List.flatMap_cons, List.foldl_append, foldl_feed_utf8EncodeChar, ih]
      simp

/-! ## Texts -/

theorem encode_ofList (cs : List Char) :
    encode (String.ofList cs) = cs.flatMap String.utf8EncodeChar := by
  unfold encode
  rw [String.toList_ofList]

theorem encode_append (s t : String) : encode (s ++ t) = encode s ++ encode t := by
  unfold encode
  rw [String.toList_append, List.flatMap_append]

theorem scan_flatMap (cs : List Char) : scan (cs.flatMap String.utf8EncodeChar) = cs.map some := by
  unfold scan
  rw [foldl_feed_encode]
  simp [Progress.finish]

/-- What is written is read as its code points, all of them decodable. -/
theorem scan_encode (s : String) : scan (encode s) = s.toList.map some := scan_flatMap s.toList

theorem decodeLossy_encode (s : String) : decodeLossy (encode s) = s := by
  unfold decodeLossy
  rw [scan_encode, List.map_map]
  have hsame : s.toList.map ((fun c : Option Char => c.getD '\uFFFD') ∘ some) = s.toList :=
    List.map_id s.toList
  rw [hsame, String.ofList_toList]

end Utf8
end Text
end PatronGateway
