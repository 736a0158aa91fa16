import PatronGateway.Http.Header

/-!
# ASCII bytes as a text

Bytes below 128 are a text of as many characters, and that text is written as the same bytes.
So a header value that is readable comes through the reading and writing unchanged.

* `decode?_ascii` and `encode_ascii` say what the text is, and what it is written as.
* `readable?_of_all` is the case of a header value.
-/

namespace PatronGateway
namespace Text
namespace Utf8

/-- The character of an ASCII byte. -/
def asciiChar (b : UInt8) : Char := Char.ofNat b.toNat

variable {bs : Bytes}

theorem begin_ascii {b : UInt8} (h : b.toNat < 0x80) :
    begin b = (.start, some (some (asciiChar b))) := by
  unfold begin
  rw [if_pos h]
  rfl

/-- Between two code points, ASCII bytes are read one by one, and the reading stays between two
code points. -/
theorem foldl_feed_ascii (h : ∀ b ∈ bs, b.toNat < 0x80) (reversed : List (Option Char)) :
    bs.foldl Progress.feed ⟨.start, reversed⟩ =
      ⟨.start, (bs.map fun b => some (asciiChar b)).reverse ++ reversed⟩ := by
  induction bs generalizing reversed with
  | nil => rfl
  | cons b bs ih =>
      have hfeed : Progress.feed ⟨.start, reversed⟩ b =
          ⟨.start, some (asciiChar b) :: reversed⟩ := by
        unfold Progress.feed
        dsimp only
        rw [begin_ascii (h b List.mem_cons_self)]
        rfl
      rw [List.foldl_cons, hfeed, ih fun b' hb' => h b' (List.mem_cons_of_mem _ hb')]
      simp

theorem scan_ascii (h : ∀ b ∈ bs, b.toNat < 0x80) :
    scan bs = bs.map fun b => some (asciiChar b) := by
  unfold scan
  rw [foldl_feed_ascii h]
  simp [Progress.finish]

theorem decode?_ascii (h : ∀ b ∈ bs, b.toNat < 0x80) :
    decode? bs = some (String.ofList (bs.map asciiChar)) := by
  have hall : (bs.map fun b => some (asciiChar b)).mapM id = some (bs.map asciiChar) := by
    clear h
    induction bs with
    | nil => rfl
    | cons b bs ih => simp [ih]
  unfold decode?
  rw [scan_ascii h, hall]
  rfl

theorem utf8EncodeChar_asciiChar {b : UInt8} (h : b.toNat < 0x80) :
    String.utf8EncodeChar (asciiChar b) = [b] := by
  have hvalid : b.toNat.isValidChar := Or.inl (by omega)
  have hvalue : (asciiChar b).val.toNat = b.toNat := by
    unfold asciiChar
    rw [Char.ofNat, dif_pos hvalid]
    rfl
  unfold String.utf8EncodeChar
  dsimp only
  rw [hvalue, if_pos (by omega), UInt8.ofNat_toNat]

theorem encode_ascii (h : ∀ b ∈ bs, b.toNat < 0x80) :
    encode (String.ofList (bs.map asciiChar)) = bs := by
  unfold encode
  rw [String.toList_ofList]
  induction bs with
  | nil => rfl
  | cons b bs ih =>
      rw [List.map_cons, List.flatMap_cons, utf8EncodeChar_asciiChar (h b List.mem_cons_self),
        ih fun b' hb' => h b' (List.mem_cons_of_mem _ hb')]
      rfl

end Utf8
end Text

namespace Http

theorem ascii_of_isReadableByte {b : UInt8} (h : isReadableByte b = true) : b.toNat < 0x80 := by
  unfold isReadableByte at h
  simp only [Bool.or_eq_true, Bool.and_eq_true, beq_iff_eq, decide_eq_true_eq] at h
  omega

theorem isValueByte_of_isReadableByte {b : UInt8} (h : isReadableByte b = true) :
    isValueByte b = true := by
  unfold isReadableByte at h
  unfold isValueByte
  simp only [Bool.or_eq_true, Bool.and_eq_true, beq_iff_eq, bne_iff_ne, decide_eq_true_eq] at h ⊢
  omega

/-- A readable value is read as a text that may be the value of a header field, and that is
written as the same bytes. -/
theorem readable?_of_all {value : Bytes} (h : value.all isReadableByte = true) :
    ∃ text, readable? value = some text ∧ isValue text = true ∧ Text.Utf8.encode text = value := by
  have hreadable : ∀ b ∈ value, isReadableByte b = true := List.all_eq_true.mp h
  have hascii : ∀ b ∈ value, b.toNat < 0x80 := fun b hb => ascii_of_isReadableByte (hreadable b hb)
  have hencode := Text.Utf8.encode_ascii hascii
  refine ⟨_, ?_, ?_, hencode⟩
  · unfold readable?
    rw [if_pos h, Text.Utf8.decode?_ascii hascii]
  · unfold isValue
    rw [hencode, List.all_eq_true]
    exact fun b hb => isValueByte_of_isReadableByte (hreadable b hb)

end Http
end PatronGateway
